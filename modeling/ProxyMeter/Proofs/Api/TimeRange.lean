import ProxyMeter.Api.Question
import ProxyMeter.Proofs.Calendar.Rfc3339

/-!
# Ranges that are asked for

Both ends of a range are instants that a clock shows. The start may be a day before the end, and the
calendar has that day: an end that is told lies near the years 0 to 9999, far from where the
calendar ends.
-/

namespace ProxyMeter.Api

open Calendar

/-- The end of a range, by default the present. -/
def endOf (stop : Option String) (now : Instant) : Except RangeFault Instant :=
  match stop with
  | some text => readTime "end" text
  | none => .ok now

/-- The start of a range, by default a day before its end. -/
def startOf (start : Option String) (last : Instant) : Except RangeFault Instant :=
  match start with
  | some text => readTime "start" text
  | none => .ok (last.shift (-Instant.day))

/-- A present that a clock shows, from 1970 on, in a year that the calendar has. -/
structure IsPresent (now : Instant) : Prop where
  clock : now.OnClock
  since : 0 ≤ now.seconds
  year : Rfc3339.isReachable now.year = true

variable {start stop : Option String} {now last : Instant} {range : TimeRange}

/-- The end is found first, then the start. -/
theorem resolveRange_eq (start stop : Option String) (now : Instant) :
    resolveRange start stop now = endOf stop now >>= fun last => startOf start last >>= fun first =>
      if first ≤ last then .ok ⟨first, last⟩ else .error .reversed := by
  cases start <;> cases stop <;> rfl

theorem isTold_of_readTime {parameter text : String} (h : readTime parameter text = .ok last) :
    Rfc3339.IsTold last := by
  rw [readTime] at h
  split at h
  · cases h
    exact Rfc3339.isTold_of_read ‹_›
  · cases h

theorem endOf_cases (h : endOf stop now = .ok last) : last = now ∨ Rfc3339.IsTold last := by
  cases stop with
  | none =>
    cases h
    exact .inl rfl
  | some text => exact .inr (isTold_of_readTime h)

/-- A range runs from what is told, or from a day before its end. -/
theorem resolveRange_cases (h : resolveRange start stop now = .ok range) :
    endOf stop now = .ok range.stop ∧
      (range.start = range.stop.shift (-Instant.day) ∨ Rfc3339.IsTold range.start) ∧
        range.start ≤ range.stop := by
  rw [resolveRange_eq] at h
  obtain ⟨last, ended, h⟩ := bind_eq_ok.mp h
  obtain ⟨first, begun, h⟩ := bind_eq_ok.mp h
  split at h
  · cases h
    refine ⟨ended, ?_, ‹_›⟩
    cases start with
    | none =>
      cases begun
      exact .inl rfl
    | some text => exact .inr (isTold_of_readTime begun)
  · cases h

/-- A question asks for the range of its parameters. -/
theorem rangeOf_eq_ok {q : Query} :
    rangeOf q now = .ok range ↔ resolveRange q.start q.stop now = .ok range := by
  rw [rangeOf]
  cases resolveRange q.start q.stop now <;> simp

/-- Clocks show both ends of a range. -/
theorem onClock_of_resolveRange (clock : now.OnClock)
    (h : resolveRange start stop now = .ok range) : range.start.OnClock ∧ range.stop.OnClock := by
  obtain ⟨ended, begun, -⟩ := resolveRange_cases h
  have last : range.stop.OnClock := by
    obtain present | told := endOf_cases ended
    · exact present ▸ clock
    · exact told.onClock
  refine ⟨?_, last⟩
  obtain before | told := begun
  · exact before ▸ Instant.onClock_shift_neg_day last
  · exact told.onClock

/-- The calendar has the day before the end of a range. -/
theorem isReachable_shift_neg_day (present : IsPresent now) (h : endOf stop now = .ok last) :
    Rfc3339.isReachable (last.shift (-Instant.day)).year = true := by
  have day {a : Instant} (clock : a.OnClock) (least : -95000000 ≤ a.seconds / 86400)
      (year : a.year ≤ 262142) : Rfc3339.isReachable (a.shift (-Instant.day)).year = true := by
    have days : a.seconds / 86400 - 1 ≤ (a.shift (-Instant.day)).seconds / 86400 ∧
        (a.shift (-Instant.day)).seconds / 86400 ≤ a.seconds / 86400 := by
      rw [Instant.shift_neg_day clock]
      split_ifs <;> simp only <;> omega
    have first : (Date.ofDays (-95000001)).year = -258132 := by decide
    have least : -95000001 ≤ (a.shift (-Instant.day)).seconds / 86400 := by omega
    have least := Date.year_ofDays_mono least
    have greatest := Date.year_ofDays_mono days.2
    rw [Rfc3339.isReachable, Bool.and_eq_true, decide_eq_true_eq, decide_eq_true_eq]
    rw [Instant.year] at *
    omega
  obtain rfl | told := endOf_cases h
  · have year := present.year
    rw [Rfc3339.isReachable, Bool.and_eq_true, decide_eq_true_eq, decide_eq_true_eq] at year
    have since := present.since
    exact day present.clock (by omega) year.2
  · have days := told.days
    have last : (Date.ofDays 2932929).year = 10000 := by decide
    have year := Date.year_ofDays_mono days.2
    exact day told.onClock (by omega) (by rw [Instant.year]; omega)

end ProxyMeter.Api
