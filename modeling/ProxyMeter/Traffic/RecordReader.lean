import ProxyMeter.Json.Parser
import ProxyMeter.Traffic.Record

/-!
# Reading a record

A record is an object with the ten members of its written form, in any order and among others, no
known one twice; or an array of exactly the ten values in order. Times are taken in the lenient
form.
-/

namespace ProxyMeter.Traffic

open Calendar Json

/-- The keys of a record, in the order in which they are written. -/
def Record.keys : List String :=
  ["source_ip", "destination_ip", "domain", "port", "timestamp", "latency_ms", "bytes_in",
    "bytes_out", "protocol", "created_at"]

/-- A text. -/
def text? : Value → Option String
  | .string (some s) => some s
  | _ => none

/-- A whole number of sixty-four bits with a sign. -/
def count? : Value → Option Int
  | .number (.integer n) =>
    if -(Nat.pow 2 63 : Nat) ≤ n ∧ n < (Nat.pow 2 63 : Nat) then some n else none
  | _ => none

/-- A port. -/
def port? : Value → Option UInt16
  | .number (.integer n) => if 0 ≤ n ∧ n < 65536 then some (UInt16.ofNat n.toNat) else none
  | _ => none

/-- An instant. -/
def instant? (v : Value) : Option Instant := (text? v).bind Rfc3339.parseLenient?

/-- A record from its ten values in order. -/
def Record.ofValues? : List Value → Option Record
  | [source, destination, domain, port, time, latency, bytesIn, bytesOut, transport, created] => do
    let event : Event :=
      { sourceIp := ← text? source, destinationIp := ← text? destination, domain := ← text? domain
        port := ← port? port, timestamp := ← instant? time, latencyMs := ← count? latency
        bytesIn := ← count? bytesIn, bytesOut := ← count? bytesOut, transport := ← text? transport }
    return ⟨event, ← instant? created⟩
  | _ => none

/-- A record from JSON. -/
def Record.ofJson? : Value → Option Record
  | .array items => Record.ofValues? items
  | .object members => do
    if members.any (·.1.isNone) then none
    let once := Record.keys.all fun key => (members.filter (·.1 = some key)).length = 1
    if ¬ once then none
    Record.ofValues? (← Record.keys.mapM fun key => members.lookup (some key))
  | _ => none

/-- A record from a JSON text. -/
def Record.parse? (s : String) : Option Record := (Json.parse? s).bind Record.ofJson?

end ProxyMeter.Traffic
