import ProxyMeter.Store.Summary

/-!
# Running totals

Rows are added up under their keys in one pass, in a table with an entry for every key that has come
up. The pass ends without a result where a total does not fit a signed word.
-/

namespace ProxyMeter.Store

open Traffic

/-- What the rows of a key have added up to. -/
structure Totals where
  count : Nat := 0
  bytesIn : Int := 0
  bytesOut : Int := 0
  latency : Int := 0

/-- A sum, if it fits a signed word. -/
def addWithin? (sum x : Int) : Option Int :=
  if leastWord ≤ sum + x ∧ sum + x ≤ greatestWord then some (sum + x) else none

namespace Totals

/-- The totals with one more row. -/
def add? (t : Totals) (r : Row) : Option Totals := do
  let into ← addWithin? t.bytesIn r.record.event.bytesIn
  let out ← addWithin? t.bytesOut r.record.event.bytesOut
  let latency ← addWithin? t.latency r.record.event.latencyMs
  return ⟨t.count + 1, into, out, latency⟩

/-- What is reported of totals. -/
def summary (t : Totals) : Summary := ⟨t.count, t.bytesIn, t.bytesOut, mean t.latency t.count⟩

/-- A table with a row added under a key. -/
def enter? (key : String) (r : Row) :
    List (String × Totals) → Option (List (String × Totals))
  | [] => (add? {} r).map fun t => [(key, t)]
  | (k, t) :: rest =>
    if k = key then (t.add? r).map fun t => (k, t) :: rest
    else (enter? key r rest).map fun rest => (k, t) :: rest

/-- The table of rows (`group_totals`). -/
def table? (key : Row → String) (rows : List Row) : Option (List (String × Totals)) :=
  rows.foldlM (fun table r => enter? (key r) r table) []

/-- Whether an entry comes before another: it has more rows, or as many and its key is less. -/
def atOrBefore (a b : String × Totals) : Bool :=
  b.2.count < a.2.count || (a.2.count == b.2.count && decide (a.1 ≤ b.1))

end Totals

end ProxyMeter.Store
