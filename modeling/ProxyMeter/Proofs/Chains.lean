/-!
# Steps that may fail

A chain of steps ends well if each of them does. If it fails, one of its steps has failed in the
same way.
-/

namespace ProxyMeter

variable {ε α β : Type} {fault : ε}

/-- A chain ends well if its first step does and the rest does from there. -/
theorem bind_eq_ok {x : Except ε α} {f : α → Except ε β} {b : β} :
    (x >>= f) = .ok b ↔ ∃ a, x = .ok a ∧ f a = .ok b := by
  cases x with
  | error fault => simp [bind, Except.bind]
  | ok a => simp [bind, Except.bind]

theorem ok_ne_error (a : α) (fault : ε) : (.ok a : Except ε α) ≠ .error fault := by
  intro same
  cases same

/-- A chain does not fail in a way in which neither its first step nor the rest does. -/
theorem bind_ne_error {x : Except ε α} {f : α → Except ε β} (first : x ≠ .error fault)
    (rest : ∀ a, f a ≠ .error fault) : x >>= f ≠ .error fault := by
  cases x with
  | error other =>
    intro same
    cases same
    exact first rfl
  | ok a => exact rest a

theorem map_ne_error {x : Except ε α} (f : α → β) (h : x ≠ .error fault) :
    x.map f ≠ .error fault := by
  cases x with
  | error other =>
    intro same
    cases same
    exact h rfl
  | ok a => exact ok_ne_error _ _

/-- Steps that all end well give the list of what they give. -/
theorem mapM_eq_ok {f : α → Except ε β} {g : α → β} {xs : List α}
    (h : ∀ x ∈ xs, f x = .ok (g x)) : xs.mapM f = .ok (xs.map g) := by
  induction xs with
  | nil => rfl
  | cons x xs ih =>
    rw [List.mapM_cons, h x (.head _), ih fun y member => h y (.tail _ member)]
    rfl

/-- Steps that all give something give the list of what they give. -/
theorem mapM_eq_some {f : α → Option β} {g : α → β} {xs : List α}
    (h : ∀ x ∈ xs, f x = some (g x)) : xs.mapM f = some (xs.map g) := by
  induction xs with
  | nil => rfl
  | cons x xs ih =>
    rw [List.mapM_cons, h x (.head _), ih fun y member => h y (.tail _ member)]
    rfl

/-- Steps do not fail in a way in which none of them does. -/
theorem mapM_ne_error {f : α → Except ε β} {xs : List α} (h : ∀ x ∈ xs, f x ≠ .error fault) :
    xs.mapM f ≠ .error fault := by
  induction xs with
  | nil => exact ok_ne_error _ _
  | cons x xs ih =>
    have rest := ih fun y member => h y (.tail _ member)
    rw [List.mapM_cons]
    exact bind_ne_error (h x (.head _)) fun y => bind_ne_error rest fun ys => ok_ne_error _ _

end ProxyMeter
