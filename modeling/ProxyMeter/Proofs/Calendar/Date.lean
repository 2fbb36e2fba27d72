import Mathlib.Tactic.SplitIfs
import ProxyMeter.Calendar.Date

/-!
# Dates in order

A day of an era has a century, a leap cycle of four years, a year in it and a day of this year. Such
parts, and with them the year, the month and the day, are ordered as the days are.
-/

namespace ProxyMeter.Calendar

/-- The parts of a day of an era. Only the last year of a leap cycle has a day 365, and of the last
cycles of the four centuries only the very last. -/
structure EraDay where
  century : Int
  cycle : Int
  year : Int
  day : Int

namespace EraDay

/-- Whether there is such a day. -/
structure IsValid (p : EraDay) : Prop where
  century : 0 ≤ p.century ∧ p.century ≤ 3
  cycle : 0 ≤ p.cycle ∧ p.cycle ≤ 24
  year : 0 ≤ p.year ∧ p.year ≤ 3
  day : 0 ≤ p.day ∧ p.day ≤ 365
  leap : p.day = 365 → p.year = 3 ∧ (p.cycle < 24 ∨ p.century = 3)

/-- The number of days from the beginning of the era. -/
def toDays (p : EraDay) : Int := 36524 * p.century + 1461 * p.cycle + 365 * p.year + p.day

/-- The number of years from the beginning of the era. -/
def toYears (p : EraDay) : Int := 100 * p.century + 4 * p.cycle + p.year

/-- Each of the 146097 days of an era has its parts. -/
theorem exists_toDays {days : Int} (h : 0 ≤ days) (h' : days < 146097) :
    ∃ p : EraDay, p.IsValid ∧ p.toDays = days := by
  let century := min (days / 36524) 3
  let cycle := (days - 36524 * century) / 1461
  let year := min ((days - 36524 * century - 1461 * cycle) / 365) 3
  refine ⟨⟨century, cycle, year, days - 36524 * century - 1461 * cycle - 365 * year⟩,
    ⟨?_, ?_, ?_, ?_, ?_⟩, ?_⟩ <;> simp only [toDays, century, cycle, year] <;> omega

variable {p q : EraDay}

/-- The years are found from the days. -/
theorem toYears_eq (h : p.IsValid) :
    (p.toDays - p.toDays / 1460 + p.toDays / 36524 - p.toDays / 146096) / 365 = p.toYears := by
  obtain ⟨c, k, y, d, leap⟩ := h
  have cycles : p.toDays / 1460 = 25 * p.century + p.cycle ∨
      p.toDays / 1460 = 25 * p.century + p.cycle + 1 := by
    simp only [toDays]
    omega
  have centuries : p.toDays / 36524 - p.toDays / 146096 = p.century := by
    -- Only the last day of an era lies outside the even centuries.
    have even : p.toDays < 36524 * (p.century + 1) ∨ p.century = 3 ∧ p.toDays = 146096 := by
      simp only [toDays]
      omega
    have least : 36524 * p.century ≤ p.toDays := by
      simp only [toDays]
      omega
    obtain even | ⟨last, even⟩ := even <;> omega
  simp only [toDays, toYears] at *
  omega

/-- The days before the year are found from the years. -/
theorem day_eq (h : p.IsValid) :
    p.toDays - (365 * p.toYears + p.toYears / 4 - p.toYears / 100) = p.day := by
  obtain ⟨c, k, y, d, leap⟩ := h
  have cycles : p.toYears / 4 = 25 * p.century + p.cycle := by
    simp only [toYears]
    omega
  have centuries : p.toYears / 100 = p.century := by
    simp only [toYears]
    omega
  rw [cycles, centuries, toYears, toDays]
  omega

/-- A later day is in a later year or later in the same. -/
theorem lt_of_toDays_lt (hp : p.IsValid) (hq : q.IsValid) (h : p.toDays < q.toDays) :
    p.toYears < q.toYears ∨ p.toYears = q.toYears ∧ p.day < q.day := by
  obtain ⟨c, k, y, d, leap⟩ := hp
  obtain ⟨c', k', y', d', leap'⟩ := hq
  simp only [toDays, toYears] at *
  by_cases century : p.century = q.century
  · by_cases cycle : p.cycle = q.cycle
    · omega
    · omega
  · omega

end EraDay

namespace Date

/-- Whether a date comes before another. -/
def Before (a b : Date) : Prop :=
  a.year < b.year ∨ a.year = b.year ∧ (a.month < b.month ∨ a.month = b.month ∧ a.day < b.day)

/-- The date on a day of a year that begins in March. -/
def ofMarch (year dayOfYear : Int) : Date :=
  let month := (5 * dayOfYear + 2) / 153
  let civilMonth := if month < 10 then month + 3 else month - 9
  ⟨if civilMonth ≤ 2 then year + 1 else year, civilMonth.toNat,
    (dayOfYear - (153 * month + 2) / 5 + 1).toNat⟩

/-- Dates in years that begin in March come in the order of the years and their days. -/
theorem ofMarch_before {y y' d d' : Int} (h : 0 ≤ d) (h' : 0 ≤ d') (last : d ≤ 365)
    (last' : d' ≤ 365) (less : y < y' ∨ y = y' ∧ d < d') :
    (ofMarch y d).Before (ofMarch y' d') := by
  have months : 0 ≤ (5 * d + 2) / 153 ∧ (5 * d + 2) / 153 ≤ 11 := by omega
  have months' : 0 ≤ (5 * d' + 2) / 153 ∧ (5 * d' + 2) / 153 ≤ 11 := by omega
  simp only [Before, ofMarch]
  split_ifs <;> omega

/-- A month has two digits, and so has a day. -/
theorem ofMarch_lt (y : Int) {d : Int} (h : 0 ≤ d) (last : d ≤ 365) :
    (ofMarch y d).month < 100 ∧ (ofMarch y d).day < 100 := by
  simp only [ofMarch]
  split_ifs <;> omega

/-- The date of a day is found from the parts of its day in its era. -/
theorem exists_ofDays (days : Int) : ∃ (era : Int) (p : EraDay), p.IsValid ∧
    days + 719468 = 146097 * era + p.toDays ∧
      ofDays days = ofMarch (p.toYears + era * 400) p.day := by
  obtain ⟨p, valid, same⟩ := EraDay.exists_toDays
    (Int.emod_nonneg (days + 719468) (by decide : (146097 : Int) ≠ 0))
    (Int.emod_lt_of_pos (days + 719468) (by decide))
  refine ⟨(days + 719468) / 146097, p, valid, by omega, ?_⟩
  simp only [ofDays, ← same, p.toYears_eq valid, p.day_eq valid, ofMarch]

/-- Later days have later dates. -/
theorem ofDays_before {a b : Int} (h : a < b) : (ofDays a).Before (ofDays b) := by
  obtain ⟨era, p, valid, days, date⟩ := exists_ofDays a
  obtain ⟨era', q, valid', days', date'⟩ := exists_ofDays b
  rw [date, date']
  apply ofMarch_before valid.day.1 valid'.day.1 valid.day.2 valid'.day.2
  have span (r : EraDay) (h : r.IsValid) :
      0 ≤ r.toDays ∧ r.toDays < 146097 ∧ 0 ≤ r.toYears ∧ r.toYears < 400 := by
    obtain ⟨c, k, y, d, leap⟩ := h
    simp only [EraDay.toDays, EraDay.toYears]
    omega
  have hp := span p valid
  have hq := span q valid'
  by_cases eras : era = era'
  · have later := EraDay.lt_of_toDays_lt valid valid' (by omega)
    omega
  · omega

/-- The month and the day of a date have two digits each. -/
theorem ofDays_lt (days : Int) : (ofDays days).month < 100 ∧ (ofDays days).day < 100 := by
  obtain ⟨era, p, valid, -, date⟩ := exists_ofDays days
  rw [date]
  exact ofMarch_lt _ valid.day.1 valid.day.2

/-- The years of later days are not less. -/
theorem year_ofDays_mono {a b : Int} (h : a ≤ b) : (ofDays a).year ≤ (ofDays b).year := by
  by_cases same : a = b
  · exact same ▸ Int.le_refl _
  · have later : a < b := by omega
    have less := ofDays_before later
    rw [Before] at less
    omega

end Date
end ProxyMeter.Calendar
