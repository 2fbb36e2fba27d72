import Mathlib.Algebra.BigOperators.Group.List.Basic
import Mathlib.Data.List.Induction

/-!
# Runs

A run is a list of steps taken one after the other, each of them possible in its turn. What holds
before the first step and is kept by every step holds after the run. Members of a list, such as the
workers of a pool, change one at a time; a sum over them then changes by one summand.
-/

namespace ProxyMeter

/-- What holds at first, and is kept by each step that follows a run, holds after every run. -/
theorem run_induction {α β : Type} {step : β → α → Option β} {P : List α → β → Prop} {b₀ : β}
    (start : P [] b₀)
    (next : ∀ done b a b', done.foldlM step b₀ = some b → P done b → step b a = some b' →
      P (done ++ [a]) b')
    {as : List α} {b : β} (run : as.foldlM step b₀ = some b) : P as b := by
  induction as using List.reverseRecOn generalizing b with
  | nil =>
    cases run
    exact start
  | append_singleton done a ih =>
    rw [List.foldlM_append] at run
    obtain ⟨b₁, before, last⟩ := Option.bind_eq_some_iff.mp run
    rw [List.foldlM_cons] at last
    obtain ⟨b₂, taken, nothing⟩ := Option.bind_eq_some_iff.mp last
    cases nothing
    exact next done b₁ a b before (ih before) taken

/-- What holds at first, and is kept by every change that a step can make, holds after every run. -/
theorem run_of_change {α β : Type} {step : β → α → Option β} {Change : β → α → β → Prop}
    (of_step : ∀ {b a b'}, step b a = some b' → Change b a b') {P : List α → β → Prop} {b₀ b : β}
    {as : List α} (start : P [] b₀)
    (next : ∀ done a {b b'}, P done b → Change b a b' → P (done ++ [a]) b')
    (run : as.foldlM step b₀ = some b) : P as b :=
  run_induction start (fun done _ a _ _ before taken => next done a before (of_step taken)) run

/-- What there is to see of the steps of a run, the earliest first: a step is seen from the state
that it leaves behind. -/
def seen {α β γ : Type} (step : β → α → Option β) (see : β → α → Option γ) (b : β) : List α → List γ
  | [] => []
  | a :: rest => (see b a).toList ++ ((step b a).map fun b' => seen step see b' rest).getD []

/-- What is seen of a run and one more step is what is seen of the run and of the step. -/
theorem seen_append {α β γ : Type} {step : β → α → Option β} (see : β → α → Option γ) {b b' : β}
    {done : List α} (run : done.foldlM step b = some b') (a : α) :
    seen step see b (done ++ [a]) = seen step see b done ++ (see b' a).toList := by
  induction done generalizing b with
  | nil =>
    cases run
    cases taken : step b' a <;> simp [seen, taken]
  | cons first rest ih =>
    rw [List.foldlM_cons] at run
    obtain ⟨b₁, taken, run⟩ := Option.bind_eq_some_iff.mp run
    rw [List.cons_append, seen, seen, taken, Option.map_some, Option.map_some, Option.getD_some,
      Option.getD_some, ih run, List.append_assoc]

/-- Replacing one member changes a sum over all members by that summand. -/
theorem sum_map_set {α M : Type} [AddCommMonoid M] (f : α → M) {l : List α} {n : Nat} {a : α}
    (h : l[n]? = some a) (b : α) : ((l.set n b).map f).sum + f a = (l.map f).sum + f b := by
  induction l generalizing n with
  | nil => cases h
  | cons x l ih =>
    cases n with
    | zero =>
      cases h
      simp only [List.set_cons_zero, List.map_cons, List.sum_cons]
      rw [add_right_comm, add_comm (f b), add_right_comm]
    | succ n =>
      simp only [List.set_cons_succ, List.map_cons, List.sum_cons, add_assoc]
      rw [ih (by simpa using h)]

/-- What holds of all members holds of all when one is replaced, if it holds of the new one. -/
theorem forall_getElem?_set {α : Type} {P : Nat → α → Prop} {l : List α} {n : Nat} {b : α}
    (all : ∀ m a, l[m]? = some a → P m a) (new : P n b) (m : Nat) (a : α)
    (h : (l.set n b)[m]? = some a) : P m a := by
  rw [List.getElem?_set] at h
  split at h
  · next same =>
    split at h
    · cases h
      exact same ▸ new
    · cases h
  · exact all m a h

/-- What holds of all members holds of all when one is added, if it holds of the new one. -/
theorem forall_getElem?_append {α : Type} {P : Nat → α → Prop} {l : List α} {b : α}
    (all : ∀ m a, l[m]? = some a → P m a) (new : P l.length b) (m : Nat) (a : α)
    (h : (l ++ [b])[m]? = some a) : P m a := by
  rw [List.getElem?_append] at h
  split at h
  · exact all m a h
  · next beyond =>
    rw [List.getElem?_singleton] at h
    split at h
    · next first =>
      cases h
      obtain rfl : m = l.length := by omega
      exact new
    · cases h

end ProxyMeter
