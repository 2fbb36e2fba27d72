import ProxyMeter.Calendar.Instant

/-!
# Time ranges
-/

namespace ProxyMeter.Calendar

/-- The ends of a range of time, both in it. -/
structure TimeRange where
  start : Instant
  stop : Instant
  deriving DecidableEq, Repr

/-- Whether an instant is in a range (`MemoryRepository.in_range`). -/
def TimeRange.holds (r : TimeRange) (t : Instant) : Bool :=
  r.start.atOrBefore t && t.atOrBefore r.stop

end ProxyMeter.Calendar
