import ProxyMeter.Calendar.TimeRange

/-!
# Instants in order

Instants are ordered by their seconds and then by their nanoseconds. A clock shows nanoseconds past
the end of a second only in the last second of a minute, when a leap second follows it.
-/

namespace ProxyMeter.Calendar

namespace Instant

variable {a b c : Instant}

/-- Seconds come first, and nanoseconds where the seconds are the same. -/
theorem le_iff : a ≤ b ↔ a.seconds < b.seconds ∨ a.seconds = b.seconds ∧ a.nanos ≤ b.nanos := by
  show a.atOrBefore b = true ↔ _
  simp [atOrBefore]

protected theorem le_refl (a : Instant) : a ≤ a := by
  simp [le_iff]

protected theorem le_trans (h : a ≤ b) (h' : b ≤ c) : a ≤ c := by
  rw [le_iff] at *
  omega

protected theorem le_antisymm (h : a ≤ b) (h' : b ≤ a) : a = b := by
  rw [le_iff] at h h'
  cases a
  cases b
  simp only [mk.injEq] at *
  omega

protected theorem le_total (a b : Instant) : a ≤ b ∨ b ≤ a := by
  rw [le_iff, le_iff]
  omega

/-- Whether a clock can show an instant. -/
def OnClock (a : Instant) : Prop :=
  a.nanos < second ∨ a.seconds % 60 = 59 ∧ a.nanos < 2 * second

instance (a : Instant) : Decidable a.OnClock := inferInstanceAs (Decidable (_ ∨ _))

/-- The year of an instant in universal time. -/
def year (a : Instant) : Int := (Date.ofDays (a.seconds / 86400)).year

/-- Whether the year of an instant is written in four digits and no more. -/
def HasFourDigits (a : Instant) : Prop := 0 ≤ a.year ∧ a.year ≤ 9999

instance (a : Instant) : Decidable a.HasFourDigits := inferInstanceAs (Decidable (_ ∧ _))

end Instant

/-- Whether both ends of a range are shown by clocks and written with years of four digits. -/
structure TimeRange.HasFourDigits (r : TimeRange) : Prop where
  startClock : r.start.OnClock
  stopClock : r.stop.OnClock
  startDigits : r.start.HasFourDigits
  stopDigits : r.stop.HasFourDigits

instance (r : TimeRange) : Decidable r.HasFourDigits :=
  decidable_of_iff ((r.start.OnClock ∧ r.stop.OnClock) ∧
      r.start.HasFourDigits ∧ r.stop.HasFourDigits)
    ⟨fun ⟨⟨clock, clock'⟩, digits, digits'⟩ => ⟨clock, clock', digits, digits'⟩,
      fun h => ⟨⟨h.startClock, h.stopClock⟩, h.startDigits, h.stopDigits⟩⟩

/-- The instants of a range are those from its start to its end. -/
theorem TimeRange.holds_iff {r : TimeRange} {t : Instant} :
    r.holds t = true ↔ r.start ≤ t ∧ t ≤ r.stop := by
  rw [TimeRange.holds, Bool.and_eq_true]
  rfl

end ProxyMeter.Calendar
