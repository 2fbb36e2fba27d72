import ProxyMeter.Calendar.Date
import ProxyMeter.Text.Numeral

/-!
# Instants

An instant of universal time is a count of whole seconds from 1970 and the nanoseconds after them.
During a leap second, which follows the second 59 of a minute, the nanoseconds go on from one to two
thousand million. Instants are ordered by seconds and then nanoseconds.
-/

namespace ProxyMeter.Calendar

/-- A point in universal time. -/
structure Instant where
  seconds : Int
  nanos : Nat
  deriving DecidableEq, Repr

namespace Instant

/-- The number of nanoseconds in a second. -/
def second : Nat := 1000000000

/-- Whether an instant is at or before another. -/
def atOrBefore (a b : Instant) : Bool :=
  a.seconds < b.seconds || (a.seconds = b.seconds && a.nanos ≤ b.nanos)

instance : LE Instant := ⟨fun a b => a.atOrBefore b = true⟩

instance (a b : Instant) : Decidable (a ≤ b) := inferInstanceAs (Decidable (_ = true))

/-- The instant some nanoseconds after another, or before it. A span that leaves a leap second
counts from its end if it goes back and from its start if it goes on. -/
def shift (a : Instant) (nanos : Int) : Instant :=
  let whole := nanos.tdiv second
  let part := nanos.tmod second
  if second ≤ a.nanos then
    if 0 < whole ∨ (0 < part ∧ 2 * second ≤ a.nanos + part) then
      normal (a.seconds + whole) ((a.nanos : Int) - second + part)
    else if whole < 0 then normal (a.seconds + 1 + whole) ((a.nanos : Int) - second + part)
    else ⟨a.seconds, (a.nanos + part).toNat⟩
  else normal (a.seconds + whole) (a.nanos + part)
where
  /-- Seconds and nanoseconds with the nanoseconds brought below a second. -/
  normal (seconds nanos : Int) : Instant :=
    ⟨seconds + nanos / second, (nanos % second).toNat⟩

/-- One day in nanoseconds. -/
def day : Int := 86400 * 1000000000

/-- The year as it is written: four digits, with a sign outside of the years 0 to 9999. -/
def yearText (year : Int) : String :=
  if 0 ≤ year ∧ year ≤ 9999 then Text.padded 4 year.toNat
  else (if year < 0 then "-" else "+") ++ Text.padded 4 year.natAbs

/-- A fraction of a second in the fewest of no, three, six or nine digits. -/
def fractionText (nanos : Nat) : String :=
  if nanos = 0 then ""
  else if nanos % 1000000 = 0 then "." ++ Text.padded 3 (nanos / 1000000)
  else if nanos % 1000 = 0 then "." ++ Text.padded 6 (nanos / 1000)
  else "." ++ Text.padded 9 nanos

/-- Date and time of day, followed by `zone`. -/
def renderWith (zone : String) (a : Instant) : String :=
  let date := Date.ofDays (a.seconds / 86400)
  let time := (a.seconds % 86400).toNat
  let leap := second ≤ a.nanos
  let nanos := if leap then a.nanos - second else a.nanos
  let secondOfMinute := time % 60 + if leap then 1 else 0
  yearText date.year ++ "-" ++ Text.padded 2 date.month ++ "-" ++ Text.padded 2 date.day ++ "T" ++
    Text.padded 2 (time / 3600) ++ ":" ++ Text.padded 2 (time / 60 % 60) ++ ":" ++
    Text.padded 2 secondOfMinute ++ fractionText nanos ++ zone

/-- The text of an instant in answers, with Z for its zone. -/
def render (a : Instant) : String := a.renderWith "Z"

/-- The text of an instant in a table, with its offset written out. -/
def stored (a : Instant) : String := a.renderWith "+00:00"

end Instant

end ProxyMeter.Calendar
