import ProxyMeter.Proofs.Calendar.Date

/-!
# Days and their dates

The date of a day is a date that there is, and its day is the one that it is the date of. In a year
that begins in March the days up to a month are counted without regard to leap days; only the last
day of such a year, the leap day, asks whether there is one.
-/

namespace ProxyMeter.Calendar

namespace Date

theorem isValid_iff {d : Date} : d.isValid = true ↔
    (1 ≤ d.month ∧ d.month ≤ 12) ∧ 1 ≤ d.day ∧ d.day ≤ monthLength d.year d.month := by
  simp [isValid, and_assoc]

/-- The day of a date in a year that begins in March. -/
theorem toDays_ofMarch (y : Int) {d : Int} (h : 0 ≤ d) (last : d ≤ 365) :
    (ofMarch y d).toDays =
      y / 400 * 146097 + (y % 400 * 365 + y % 400 / 4 - y % 400 / 100) + d - 719468 := by
  have months : 0 ≤ (5 * d + 2) / 153 ∧ (5 * d + 2) / 153 ≤ 11 := by omega
  simp only [toDays, ofMarch]
  split_ifs <;> omega

/-- There is a date on each day of a year that begins in March; its last day is a leap day. -/
theorem isValid_ofMarch (y : Int) {d : Int} (h : 0 ≤ d) (last : d ≤ 365)
    (leap : d = 365 → isLeap (y + 1) = true) : (ofMarch y d).isValid = true := by
  have months : 0 ≤ (5 * d + 2) / 153 ∧ (5 * d + 2) / 153 ≤ 11 := by omega
  simp only [isValid_iff, ofMarch, monthLength]
  by_cases leapDay : d = 365
  · subst leapDay
    simp [leap rfl]
  · split_ifs <;> omega

/-- The day of the date of a day is this day. -/
@[simp]
theorem toDays_ofDays (days : Int) : (ofDays days).toDays = days := by
  obtain ⟨era, p, valid, same, date⟩ := exists_ofDays days
  have parts := p.day_eq valid
  have years : 0 ≤ p.toYears ∧ p.toYears < 400 := by
    obtain ⟨c, k, y, d, leap⟩ := valid
    simp only [EraDay.toYears]
    omega
  rw [date, toDays_ofMarch _ valid.day.1 valid.day.2]
  omega

/-- Every day has a date. -/
@[simp]
theorem isValid_ofDays (days : Int) : (ofDays days).isValid = true := by
  obtain ⟨era, p, valid, -, date⟩ := exists_ofDays days
  rw [date]
  refine isValid_ofMarch _ valid.day.1 valid.day.2 fun leapDay => ?_
  obtain ⟨c, k, y, d, leap⟩ := valid
  have last := leap leapDay
  have years : isLeap (p.toYears + era * 400 + 1) = true ↔
      (p.toYears + 1) % 4 = 0 ∧ ((p.toYears + 1) % 100 ≠ 0 ∨ (p.toYears + 1) % 400 = 0) := by
    simp only [isLeap, Bool.and_eq_true, Bool.or_eq_true, decide_eq_true_eq]
    omega
  rw [years, EraDay.toYears]
  omega

end Date
end ProxyMeter.Calendar
