import ProxyMeter.Store.Fault
import ProxyMeter.Traffic.Record

/-!
# Summaries of rows

A summary counts rows, adds up their bytes and takes the mean of their latencies. Rows are grouped
by a key, and groups are ranked by their size, equal ones by their keys.
-/

namespace ProxyMeter.Store

open Traffic

/-- What is reported of several rows (`TrafficStats`). -/
structure Summary where
  count : Nat
  bytesIn : Int
  bytesOut : Int
  averageLatency : Float

/-- The summary of the rows that share a key (`DomainStats` and `SourceIpStats`). -/
structure Ranked where
  key : String
  summary : Summary

/-- What rows are grouped by. -/
inductive Grouping where
  /-- The names that were asked for, rows without one left out. -/
  | domain
  | sourceIp
  deriving DecidableEq, Repr

/-- The key of a row. -/
def Grouping.key : Grouping → Row → String
  | .domain, r => r.record.event.domain
  | .sourceIp, r => r.record.event.sourceIp

/-- The rows that belong to a group. -/
def Grouping.members (g : Grouping) (rows : List Row) : List Row :=
  match g with
  | .domain => rows.filter fun r => r.record.event.domain ≠ ""
  | .sourceIp => rows

/-- The least signed word of sixty-four bits. -/
def leastWord : Int := -(Nat.pow 2 63 : Nat)

/-- The greatest signed word of sixty-four bits. -/
def greatestWord : Int := (Nat.pow 2 63 : Nat) - 1

/-- The sum of integers, if it and every partial sum fit a signed word. -/
def sumWithin? (xs : List Int) : Option Int :=
  xs.foldlM (fun sum x =>
    if leastWord ≤ sum + x ∧ sum + x ≤ greatestWord then some (sum + x) else none) 0

/-- The mean of `count` numbers with a sum; zero if there are none (`average`). -/
def mean (sum : Int) (count : Nat) : Float :=
  if count = 0 then 0 else Float.ofInt sum / Float.ofNat count

/-- The latencies of rows. -/
def latencies (rows : List Row) : List Int := rows.map (·.record.event.latencyMs)

/-- The bytes that rows brought in. -/
def bytesIn (rows : List Row) : List Int := rows.map (·.record.event.bytesIn)

/-- The bytes that rows took out. -/
def bytesOut (rows : List Row) : List Int := rows.map (·.record.event.bytesOut)

/-- The rows by key, in the order in which the keys come up. -/
def grouped (key : Row → String) (rows : List Row) : List (String × List Row) :=
  (rows.map key).eraseDups.map fun k => (k, rows.filter fun r => key r == k)

/-- Whether a group comes before another: it is larger, or as large and its key is less. -/
def Ranked.atOrBefore (a b : Ranked) : Bool :=
  b.summary.count < a.summary.count ||
    (a.summary.count == b.summary.count && decide (a.key ≤ b.key))

/-- Groups in their order. -/
def ranked (groups : List Ranked) : List Ranked := groups.mergeSort Ranked.atOrBefore

/-- The members of a summary in JSON, the count under a given name. -/
def Summary.members (count : String) (s : Summary) : List (String × Json.Value) :=
  [(count, .nat s.count), ("total_bytes_in", .int s.bytesIn), ("total_bytes_out", .int s.bytesOut),
    ("avg_latency_ms", .float s.averageLatency)]

/-- The name of a key in JSON. -/
def Grouping.label : Grouping → String
  | .domain => "domain"
  | .sourceIp => "source_ip"

/-- The members of a group in JSON. -/
def Ranked.members (g : Grouping) (r : Ranked) : List (String × Json.Value) :=
  (g.label, .text r.key) :: r.summary.members "count"

end ProxyMeter.Store
