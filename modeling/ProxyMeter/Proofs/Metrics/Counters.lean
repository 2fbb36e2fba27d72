import ProxyMeter.Metrics.Basic

/-!
# What one update of the metrics changes

Each update adds to one counter, one labelled series, the gauge or one histogram, and leaves
everything else as it is.
-/

namespace ProxyMeter.Metrics

open Session

/-- A counter that is set has the new value, and every other one its old value. -/
theorem counter_setCounter (m : Metrics) (value : UInt64) (c c' : Counter) :
    (m.setCounter value c).counter c' = if c = c' then value else m.counter c' := by
  cases c <;> cases c' <;> rfl

/-- An increase adds to its own counter only. -/
theorem counter_increase (m : Metrics) (c c' : Counter) (amount : UInt64) :
    (m.increase c amount).2.counter c' = m.counter c' + if c = c' then amount else 0 := by
  rw [increase, counter_setCounter]
  split
  · next same => rw [same]
  · rw [UInt64.add_zero]

/-- A series that is bumped grows by the amount, and every other one stays. -/
theorem lookup_bump {κ : Type} [DecidableEq κ] (key k : κ) (amount : UInt64)
    (series : List (κ × UInt64)) :
    ((bump key amount series).lookup k).getD 0 =
      (series.lookup k).getD 0 + if key = k then amount else 0 := by
  induction series with
  | nil =>
    by_cases same : key = k
    · simp [bump, same]
    · have other : (k == key) = false := beq_eq_false_iff_ne.mpr (Ne.symm same)
      simp [bump, List.lookup_cons, same, other]
  | cons entry rest ih =>
    obtain ⟨name, n⟩ := entry
    by_cases here : name = key
    · subst here
      by_cases same : name = k
      · simp [bump, same]
      · have other : (k == name) = false := beq_eq_false_iff_ne.mpr (Ne.symm same)
        simp [bump, List.lookup_cons, same, other]
    · rw [bump, if_neg here, List.lookup_cons, List.lookup_cons]
      by_cases found : k = name
      · have other : key ≠ k := fun h => here (found.symm.trans h.symm)
        rw [if_neg other, found, beq_self_eq_true]
        exact (UInt64.add_zero n).symm
      · have other : (k == name) = false := beq_eq_false_iff_ne.mpr found
        rw [other]
        exact ih

end ProxyMeter.Metrics
