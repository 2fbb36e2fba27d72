import ProxyMeter.Calendar.Rfc3339
import ProxyMeter.Calendar.TimeRange

/-!
# The time range of a query

A range has an end, by default the present, and a start, by default one day before the end. The end
is read first, so its fault wins over one of the start.
-/

namespace ProxyMeter.Api

open Calendar

/-- Why a range is refused. -/
inductive RangeFault where
  | notATime (parameter : String) (fault : TimeFault)
  | reversed
  deriving DecidableEq, Repr

/-- The words for a refused range. -/
def RangeFault.message : RangeFault → String
  | .notATime parameter fault => s!"参数 {parameter} 不是合法的 RFC 3339 时间: " ++ fault.message
  | .reversed => "start 不能晚于 end"

/-- A time given as a parameter. -/
def readTime (parameter text : String) : Except RangeFault Instant :=
  match Rfc3339.parse text with
  | .ok t => .ok t
  | .error fault => .error (.notATime parameter fault)

/-- The range that two optional parameters ask for at a present time (`resolve_range`). -/
def resolveRange (start stop : Option String) (now : Instant) :
    Except RangeFault TimeRange := do
  let last ← match stop with
    | some text => readTime "end" text
    | none => .ok now
  let first ← match start with
    | some text => readTime "start" text
    | none => .ok (last.shift (-Instant.day))
  if first ≤ last then .ok ⟨first, last⟩ else .error .reversed

end ProxyMeter.Api
