import Mathlib.Data.List.TakeWhile
import ProxyMeter.Calendar.Rfc3339
import ProxyMeter.Proofs.Calendar.Date
import ProxyMeter.Proofs.Calendar.Instant
import ProxyMeter.Proofs.Chains

/-!
# Instants that are read

The strict reader takes the parts of a text one after the other. Each part is small, and with them
the instant is one that a clock shows, not far from the years 0 to 9999.
-/

namespace ProxyMeter.Calendar

namespace Rfc3339

/-- The parts of a text. -/
structure Parts where
  date : Date
  hour : Nat
  minute : Nat
  second : Nat
  nanos : Nat
  offset : Int

/-- Whether the parts have the ranges that the reader asks for. -/
structure Parts.IsValid (p : Parts) : Prop where
  date : p.date.isValid = true
  year : 0 ≤ p.date.year ∧ p.date.year ≤ 9999
  time : p.hour < 24 ∧ p.minute < 60 ∧ p.second ≤ 60
  nanos : p.nanos < Instant.second
  /-- An offset has whole minutes. -/
  minutes : p.offset % 60 = 0
  offset : -largestOffset ≤ p.offset ∧ p.offset ≤ largestOffset

/-- The instant that the parts tell. -/
def Parts.instant (p : Parts) : Instant :=
  instantOf p.date p.hour p.minute p.second p.nanos p.offset

theorem digit_lt {b : UInt8} {n : Nat} (h : digit b = .ok n) : n < 10 := by
  rw [digit] at h
  split at h
  · cases h
    omega
  · cases h

theorem twoDigits_lt {a b : UInt8} {n : Nat} (h : twoDigits a b = .ok n) : n < 100 := by
  obtain ⟨tens, first, h⟩ := bind_eq_ok.mp h
  obtain ⟨ones, last, h⟩ := bind_eq_ok.mp h
  cases h
  have := digit_lt first
  have := digit_lt last
  omega

theorem require_eq_ok {condition : Bool} {fault : TimeFault} {u : Unit} :
    require condition fault = .ok u ↔ condition = true := by
  cases condition <;> simp [require]

theorem nanosOf_lt {ds : List UInt8} (digits : ∀ d ∈ ds, isDigit d = true) :
    nanosOf ds < Instant.second := by
  have value (ds : List UInt8) (acc width : Nat) (less : acc < 10 ^ width)
      (digits : ∀ d ∈ ds, isDigit d = true) :
      ds.foldl (fun acc b => acc * 10 + (b.toNat - 0x30)) acc < 10 ^ (width + ds.length) := by
    induction ds generalizing acc width with
    | nil => exact less
    | cons d ds ih =>
      have small := digits d (.head _)
      rw [isDigit, Bool.and_eq_true, decide_eq_true_eq, decide_eq_true_eq] at small
      have next : acc * 10 + (d.toNat - 0x30) < 10 ^ (width + 1) := by
        rw [Nat.pow_succ]
        omega
      have rest := ih _ (width + 1) next fun d hd => digits d (.tail _ hd)
      rw [List.foldl_cons, List.length_cons]
      exact lt_of_lt_of_eq rest (by congr 1; omega)
  have nine := value (ds.take 9) 0 0 (by decide) fun d hd => digits d (List.mem_of_mem_take hd)
  have length : (ds.take 9).length ≤ 9 := List.length_take_le 9 ds
  calc nanosOf ds < 10 ^ (0 + (ds.take 9).length) * 10 ^ (9 - (ds.take 9).length) :=
        Nat.mul_lt_mul_of_pos_right nine (Nat.pow_pos (by decide))
    _ = Instant.second := by
        rw [← Nat.pow_add, show 0 + (ds.take 9).length + (9 - (ds.take 9).length) = 9 by omega]
        rfl

theorem fraction_lt {bs rest : List UInt8} {nanos : Nat} (h : fraction bs = .ok (nanos, rest)) :
    nanos < Instant.second := by
  unfold fraction at h
  split at h
  · simp only at h
    split at h
    · cases h
    · split at h
      · cases h
      · cases h
        exact nanosOf_lt fun d hd => List.mem_takeWhile_imp hd
  · cases h
    decide

theorem offset_emod {separator : List UInt8 → Except TimeFault (List UInt8)}
    {bs rest : List UInt8} {shift : Int} (h : offset separator bs = .ok (shift, rest)) :
    shift % 60 = 0 := by
  unfold offset at h
  split at h
  · cases h
    rfl
  · cases h
    rfl
  · obtain ⟨⟨sign, digits⟩, -, h⟩ := bind_eq_ok.mp h
    simp only at h
    split at h
    · obtain ⟨hours, -, h⟩ := bind_eq_ok.mp h
      obtain ⟨digits, -, h⟩ := bind_eq_ok.mp h
      split at h
      · obtain ⟨minutes, -, h⟩ := bind_eq_ok.mp h
        cases h
        have whole : (60 : Int) ∣ (hours * 3600 + minutes * 60 : Nat) := by omega
        exact Int.emod_eq_zero_of_dvd (Int.dvd_trans whole (Int.dvd_mul_left sign _))
      · cases h
    · cases h

/-- Whether an instant can be told by parts of the right ranges. -/
def IsTold (t : Instant) : Prop := ∃ p : Parts, p.IsValid ∧ p.instant = t

/-- What is read is told by the parts of the text. -/
theorem isTold_of_read {bs : List UInt8} {t : Instant} (h : read bs = .ok t) : IsTold t := by
  unfold read at h
  split at h
  · obtain ⟨century, hc, h⟩ := bind_eq_ok.mp h
    obtain ⟨year, hy, h⟩ := bind_eq_ok.mp h
    obtain ⟨-, -, h⟩ := bind_eq_ok.mp h
    obtain ⟨month, -, h⟩ := bind_eq_ok.mp h
    obtain ⟨-, -, h⟩ := bind_eq_ok.mp h
    obtain ⟨day, -, h⟩ := bind_eq_ok.mp h
    obtain ⟨_, date, h⟩ := bind_eq_ok.mp h
    obtain ⟨-, -, h⟩ := bind_eq_ok.mp h
    obtain ⟨hour, -, h⟩ := bind_eq_ok.mp h
    obtain ⟨-, -, h⟩ := bind_eq_ok.mp h
    obtain ⟨minute, -, h⟩ := bind_eq_ok.mp h
    obtain ⟨-, -, h⟩ := bind_eq_ok.mp h
    obtain ⟨second, -, h⟩ := bind_eq_ok.mp h
    obtain ⟨⟨nanos, rest⟩, fractional, h⟩ := bind_eq_ok.mp h
    obtain ⟨_, time, h⟩ := bind_eq_ok.mp h
    obtain ⟨⟨shift, rest⟩, zone, h⟩ := bind_eq_ok.mp h
    obtain ⟨-, -, h⟩ := bind_eq_ok.mp h
    obtain ⟨_, bounded, h⟩ := bind_eq_ok.mp h
    cases h
    have := twoDigits_lt hc
    have := twoDigits_lt hy
    simp only [require_eq_ok, Bool.and_eq_true, decide_eq_true_eq] at date time bounded
    refine ⟨⟨_, hour, minute, second, nanos, shift⟩, ⟨date, ?_, ?_, fraction_lt fractional,
      offset_emod zone, bounded⟩, rfl⟩
    · simp only
      omega
    · exact ⟨time.1.1, time.1.2, time.2⟩
  · cases h

/-- A clock shows the instant of a local time: the second sixty goes past the end of a second 59. -/
theorem onClock_instantOf (date : Date) (hour minute second : Nat) {nanos : Nat} {shift : Int}
    (bound : nanos < Instant.second) (minutes : shift % 60 = 0) :
    (instantOf date hour minute second nanos shift).OnClock := by
  rw [instantOf, Instant.OnClock]
  by_cases leap : second = 60
  · simp only [leap, if_true]
    omega
  · simp only [leap, if_false]
    omega

/-- A clock shows what is told. -/
theorem IsTold.onClock {t : Instant} (told : IsTold t) : t.OnClock := by
  obtain ⟨p, h, rfl⟩ := told
  exact onClock_instantOf _ _ _ _ h.nanos h.minutes

theorem monthLength_le (year : Int) (month : Nat) : monthLength year month ≤ 31 := by
  rw [monthLength]
  split_ifs <;> decide

/-- The days of the years 0 to 9999. -/
theorem toDays_bounds {date : Date} (h : date.isValid = true) (least : 0 ≤ date.year)
    (greatest : date.year ≤ 9999) : -719528 ≤ date.toDays ∧ date.toDays ≤ 2932927 := by
  have length := monthLength_le date.year date.month
  simp only [Date.isValid, Bool.and_eq_true, decide_eq_true_eq] at h
  simp only [Date.toDays]
  split_ifs <;> omega

/-- What is told lies at most a day outside the years 0 to 9999. -/
theorem IsTold.days {t : Instant} (told : IsTold t) :
    -719529 ≤ t.seconds / 86400 ∧ t.seconds / 86400 ≤ 2932929 := by
  obtain ⟨p, h, rfl⟩ := told
  have days := toDays_bounds h.date h.year.1 h.year.2
  have time := h.time
  have offset := h.offset
  rw [largestOffset] at offset
  simp only [Parts.instant, instantOf]
  split_ifs <;> omega

end Rfc3339

namespace Instant

/-- A day before an instant; a day before a leap second is one before its end. -/
theorem shift_neg_day {a : Instant} (clock : a.OnClock) : a.shift (-day) =
    if second ≤ a.nanos then ⟨a.seconds - 86399, a.nanos - second⟩
    else ⟨a.seconds - 86400, a.nanos⟩ := by
  have whole : (-day).tdiv second = -86400 := by decide
  have part : (-day).tmod second = 0 := by decide
  have nanos : a.nanos < 2 * second := by
    rw [OnClock] at clock
    omega
  rw [second] at nanos
  by_cases leap : second ≤ a.nanos
  · rw [shift, whole, part, if_pos leap, if_pos leap, if_neg (by omega), if_pos (by decide)]
    simp only [shift.normal, second, mk.injEq] at *
    omega
  · rw [shift, whole, part, if_neg leap, if_neg leap]
    simp only [shift.normal, second, mk.injEq] at *
    omega

/-- A day before an instant there is no leap second. -/
theorem onClock_shift_neg_day {a : Instant} (clock : a.OnClock) : (a.shift (-day)).OnClock := by
  rw [shift_neg_day clock]
  rw [OnClock] at clock
  split_ifs with leap
  · exact .inl (show a.nanos - second < second by omega)
  · exact .inl (Nat.lt_of_not_le leap)

end Instant
end ProxyMeter.Calendar
