import Mathlib.Data.List.Induction
import Mathlib.Data.List.Infix
import ProxyMeter.Gate.Admission

/-!
# Places that are taken and given back

A place in a pool is taken with a slot, and given back when the slot is dropped; or it is taken and
given back by hand. All of them share one count, which never goes above the limit, and stops at zero
on its way down. As long as nobody gives a place back by hand that was not taken by hand, it never
has to stop there: the count is the number of slots and of places out of hand (`run_counted`), and
what has been given back can be taken again, all of it and no more.
-/

namespace ProxyMeter.Gate

namespace Slots

namespace Action

/-- The actions that ask for a place. -/
def IsAttempt : Action → Prop
  | .acquire _ | .add => True
  | .release _ | .remove => False

/-- The name under which a slot is asked for. -/
def slotName? : Action → Option Int
  | .acquire name => some name
  | _ => none

end Action

/-- Some actions, each with its answer. -/
def history (s : Slots) : List Action → List (Action × Bool)
  | [] => []
  | a :: rest => (a, (s.perform a).1) :: history (s.after a) rest

/-- How many places have been taken by hand. -/
def adds (past : List (Action × Bool)) : Nat := past.count (.add, true)

/-- How many times a place has been given back by hand. -/
def removes (past : List (Action × Bool)) : Nat := past.count (.remove, true)

/-- How many places that were taken by hand have not been given back. -/
def outOfHand (past : List (Action × Bool)) : Nat := adds past - removes past

/-- A place is given back by hand only if it has been taken by hand before, and then once. -/
def UndoesOnly (past : List (Action × Bool)) : Prop :=
  ∀ before, before <+: past → removes before ≤ adds before

instance (past : List (Action × Bool)) : Decidable (UndoesOnly past) :=
  decidable_of_iff (∀ before ∈ past.inits, removes before ≤ adds before)
    (forall_congr' fun before => by rw [List.mem_inits])

/-- A pool with one more place taken. -/
def entered (s : Slots) : Slots := { s with pool.active := s.pool.active + 1 }

/-- What an action can do. -/
inductive Change (s : Slots) : Action → Bool → Slots → Prop
  /-- There is no place. -/
  | refused {a : Action} (attempt : a.IsAttempt) (full : s.pool.limit ≤ s.pool.active) :
      Change s a false s
  | acquired {name : Int} (room : s.pool.active < s.pool.limit) (new : name ∉ s.held) :
      Change s (.acquire name) true { s.entered with held := name :: s.held }
  /-- A new slot takes the name of another one, which is dropped. -/
  | exchanged {name : Int} (room : s.pool.active < s.pool.limit) (known : name ∈ s.held) :
      Change s (.acquire name) true s
  | dropped {name : Int} (known : name ∈ s.held) :
      Change s (.release name) true { pool := s.pool.leave, held := s.held.erase name }
  /-- There is no slot under the name. -/
  | missing {name : Int} (unknown : name ∉ s.held) : Change s (.release name) false s
  | added (room : s.pool.active < s.pool.limit) : Change s .add true s.entered
  | removed : Change s .remove true s.remove

/-- Every action does one of these. -/
theorem change (s : Slots) (a : Action) : Change s a (s.perform a).1 (s.after a) := by
  unfold after
  cases a with
  | acquire name =>
    by_cases room : s.pool.active < s.pool.limit
    · by_cases known : name ∈ s.held
      · have acquired : s.acquire name = (true, s) := by
          simp [acquire, ConnectionPool.enter?, ConnectionPool.leave, room, known]
        rw [perform, acquired]
        exact .exchanged room known
      · have acquired : s.acquire name = (true, { s.entered with held := name :: s.held }) := by
          simp [acquire, ConnectionPool.enter?, entered, room, known]
        rw [perform, acquired]
        exact .acquired room known
    · have refused : s.acquire name = (false, s) := by simp [acquire, ConnectionPool.enter?, room]
      rw [perform, refused]
      exact .refused trivial (Nat.le_of_not_lt room)
  | release name =>
    by_cases known : name ∈ s.held
    · have released : s.release name =
          (true, { pool := s.pool.leave, held := s.held.erase name }) := by
        simp [release, known]
      rw [perform, released]
      exact .dropped known
    · have missing : s.release name = (false, s) := by simp [release, known]
      rw [perform, missing]
      exact .missing known
  | add =>
    by_cases room : s.pool.active < s.pool.limit
    · have added : s.add = (true, s.entered) := by simp [add, ConnectionPool.enter?, entered, room]
      rw [perform, added]
      exact .added room
    · have refused : s.add = (false, s) := by simp [add, ConnectionPool.enter?, room]
      rw [perform, refused]
      exact .refused trivial (Nat.le_of_not_lt room)
  | remove => exact .removed

/-- No action changes the limit, or takes the count above it. -/
theorem Change.bounded {s s' : Slots} {a : Action} {answer : Bool} (h : Change s a answer s')
    (within : s.pool.active ≤ s.pool.limit) :
    s'.pool.limit = s.pool.limit ∧ s'.pool.active ≤ s'.pool.limit := by
  cases h with
  | refused | exchanged | missing => exact ⟨rfl, within⟩
  | acquired room | added room => exact ⟨rfl, room⟩
  | dropped | removed => exact ⟨rfl, Nat.le_trans (Nat.sub_le _ _) within⟩

/-- An attempt succeeds exactly if there is a place, and changes nothing if it does not. -/
theorem Change.attempt {s s' : Slots} {a : Action} {answer : Bool} (h : Change s a answer s')
    (attempt : a.IsAttempt) :
    (answer = true ↔ s.pool.active < s.pool.limit) ∧ (answer = false → s' = s) := by
  cases h with
  | refused _ full => exact ⟨⟨nofun, fun room => absurd room (Nat.not_lt.mpr full)⟩, fun _ => rfl⟩
  | acquired room | exchanged room | added room => exact ⟨⟨fun _ => room, fun _ => rfl⟩, nofun⟩
  | dropped | missing | removed => cases attempt

/-- An attempt takes one place, if there is one and it does not take the name of another slot. -/
theorem Change.enters {s s' : Slots} {a : Action} {answer : Bool} (h : Change s a answer s')
    (attempt : a.IsAttempt) (room : s.pool.active < s.pool.limit)
    (new : ∀ name, a.slotName? = some name → name ∉ s.held) : s'.pool = s.entered.pool := by
  cases h with
  | refused _ full => exact absurd room (Nat.not_lt.mpr full)
  | exchanged _ known => exact absurd known (new _ rfl)
  | acquired | added => rfl
  | dropped | missing | removed => cases attempt

/-- Names that are still to be used stay new. -/
theorem Change.names {s s' : Slots} {a : Action} {answer : Bool} (h : Change s a answer s')
    (attempt : a.IsAttempt) {rest : List Action}
    (distinct : (s.held ++ (a :: rest).filterMap Action.slotName?).Nodup) :
    (s'.held ++ rest.filterMap Action.slotName?).Nodup := by
  have later : (rest.filterMap Action.slotName?).Sublist
      ((a :: rest).filterMap Action.slotName?) := (List.sublist_cons_self a rest).filterMap _
  cases h with
  | refused | exchanged | added =>
    exact distinct.sublist ((List.Sublist.refl _).append later)
  | acquired => exact List.perm_middle.nodup distinct
  | dropped | missing | removed => cases attempt

/-- Each slot keeps a name of its own. -/
theorem Change.nodup {s s' : Slots} {a : Action} {answer : Bool} (h : Change s a answer s')
    (distinct : s.held.Nodup) : s'.held.Nodup := by
  cases h with
  | refused | exchanged | missing | added | removed => exact distinct
  | acquired _ new => exact List.nodup_cons.mpr ⟨new, distinct⟩
  | dropped => exact distinct.erase _

section OutOfHand

variable {past : List (Action × Bool)}

/-- Places are not taken or given back by hand by what does neither. -/
theorem outOfHand_concat_of_ne {deed : Action × Bool} (add : deed ≠ (.add, true))
    (remove : deed ≠ (.remove, true)) : outOfHand (past ++ [deed]) = outOfHand past := by
  simp [outOfHand, adds, removes, List.count_append, add, remove]

theorem outOfHand_concat_add (undoes : UndoesOnly past) :
    outOfHand (past ++ [(.add, true)]) = outOfHand past + 1 := by
  have before := undoes past List.prefix_rfl
  have more : adds (past ++ [(.add, true)]) = adds past + 1 := by simp [adds]
  have same : removes (past ++ [(.add, true)]) = removes past := by simp [removes]
  rw [outOfHand, outOfHand, more, same]
  omega

theorem outOfHand_concat_remove (undoes : UndoesOnly (past ++ [(.remove, true)])) :
    outOfHand (past ++ [(.remove, true)]) + 1 = outOfHand past := by
  have now := undoes _ List.prefix_rfl
  have same : adds (past ++ [(.remove, true)]) = adds past := by simp [adds]
  have more : removes (past ++ [(.remove, true)]) = removes past + 1 := by simp [removes]
  rw [same, more] at now
  rw [outOfHand, outOfHand, more, same]
  omega

end OutOfHand

/-- The count is the number of slots and of places out of hand. -/
def Counted (past : List (Action × Bool)) (s : Slots) : Prop :=
  s.pool.active = s.held.length + outOfHand past

/-- An action is counted right, unless it gives back by hand what has not been taken. -/
theorem Change.counted {s s' : Slots} {a : Action} {answer : Bool} (h : Change s a answer s')
    {past : List (Action × Bool)} (undoes : UndoesOnly (past ++ [(a, answer)]))
    (counted : Counted past s) : Counted (past ++ [(a, answer)]) s' := by
  unfold Counted at *
  cases h with
  | refused | exchanged | missing =>
    rw [outOfHand_concat_of_ne (by simp) (by simp)]
    exact counted
  | acquired =>
    rw [outOfHand_concat_of_ne (by simp) (by simp)]
    show s.pool.active + 1 = (_ :: s.held).length + outOfHand past
    rw [counted, List.length_cons]
    omega
  | added =>
    rw [outOfHand_concat_add fun before shorter =>
      undoes before (shorter.trans (List.prefix_append _ _))]
    show s.pool.active + 1 = s.held.length + (outOfHand past + 1)
    omega
  | dropped known =>
    -- The slot is one of those that are counted, so the count is not zero.
    have some := List.length_pos_of_mem known
    rw [outOfHand_concat_of_ne (by simp) (by simp)]
    show s.pool.active - 1 = (s.held.erase _).length + outOfHand past
    rw [List.length_erase_of_mem known]
    omega
  | removed =>
    -- A place is out of hand, so the count is not zero.
    have some := outOfHand_concat_remove undoes
    show s.pool.active - 1 = s.held.length + outOfHand (past ++ [(.remove, true)])
    omega

theorem afterAll_concat (s : Slots) (actions : List Action) (a : Action) :
    s.afterAll (actions ++ [a]) = (s.afterAll actions).after a := List.foldl_append

theorem history_concat (s : Slots) (actions : List Action) (a : Action) :
    s.history (actions ++ [a]) =
      s.history actions ++ [(a, ((s.afterAll actions).perform a).1)] := by
  induction actions generalizing s with
  | nil => rfl
  | cons first rest ih => exact congrArg (_ :: ·) (ih (s.after first))

/-- In every run the count is within the limit, and each slot has a name of its own. -/
theorem run_bounded (limit : Nat) (actions : List Action) :
    ((vacant limit).afterAll actions).pool.limit = limit ∧
      ((vacant limit).afterAll actions).pool.active ≤ limit ∧
      ((vacant limit).afterAll actions).held.Nodup := by
  induction actions using List.reverseRecOn with
  | nil => exact ⟨rfl, Nat.zero_le limit, List.nodup_nil⟩
  | append_singleton actions a ih =>
    obtain ⟨same, within, distinct⟩ := ih
    have changes := change ((vacant limit).afterAll actions) a
    obtain ⟨kept, bounded⟩ := changes.bounded (by rwa [same])
    rw [afterAll_concat]
    rw [kept, same] at bounded
    exact ⟨kept.trans same, bounded, changes.nodup distinct⟩

/-- In every run in which giving back by hand only undoes, the count is right. -/
theorem run_counted (limit : Nat) (actions : List Action)
    (undoes : UndoesOnly ((vacant limit).history actions)) :
    Counted ((vacant limit).history actions) ((vacant limit).afterAll actions) := by
  induction actions using List.reverseRecOn with
  | nil => rfl
  | append_singleton actions a ih =>
    rw [history_concat] at undoes ⊢
    rw [afterAll_concat]
    exact (change _ a).counted undoes (ih fun before shorter =>
      undoes before (shorter.trans (List.prefix_append _ _)))

/-- Attempts under new names succeed as long as there is a place, and fail from then on. -/
theorem answers_attempts (s : Slots) (attempts : List Action)
    (attempt : ∀ a ∈ attempts, a.IsAttempt)
    (distinct : (s.held ++ attempts.filterMap Action.slotName?).Nodup) :
    (s.history attempts).map Prod.snd =
      List.replicate (min attempts.length (s.pool.limit - s.pool.active)) true ++
        List.replicate (attempts.length - (s.pool.limit - s.pool.active)) false := by
  induction attempts generalizing s with
  | nil => simp [history]
  | cons a rest ih =>
    have changes := change s a
    have asks := attempt a (.head _)
    obtain ⟨answer, same⟩ := changes.attempt asks
    have later := ih (s.after a) (fun b member => attempt b (.tail _ member))
      (changes.names asks distinct)
    rw [history, List.map_cons, List.length_cons, later]
    by_cases room : s.pool.active < s.pool.limit
    · have entered : (s.after a).pool = s.entered.pool :=
        changes.enters asks room fun name own known =>
          (List.nodup_append.mp distinct).2.2 name known name
            (List.mem_filterMap.mpr ⟨a, .head _, own⟩) rfl
      have places : s.pool.limit - s.pool.active =
          s.entered.pool.limit - s.entered.pool.active + 1 := by
        show s.pool.limit - s.pool.active = s.pool.limit - (s.pool.active + 1) + 1
        omega
      rw [answer.mpr room, entered, places, Nat.add_min_add_right, List.replicate_succ,
        Nat.add_sub_add_right]
      rfl
    · have refused : (s.perform a).1 = false :=
        Bool.eq_false_iff.mpr fun yes => room (answer.mp yes)
      have after : s.after a = s := same refused
      have full : s.pool.limit - s.pool.active = 0 := by omega
      rw [refused, after, full]
      simp [List.replicate_succ]

/-- What a pool with so many places does in a run. -/
structure Admits (limit : Nat) (actions : List Action) : Prop where
  bounded : ((vacant limit).afterAll actions).pool.active ≤ limit
  /-- An attempt that is refused changes nothing. -/
  refused : ∀ a, a.IsAttempt → (((vacant limit).afterAll actions).perform a).1 = false →
    (((vacant limit).afterAll actions).perform a).2 = (vacant limit).afterAll actions
  /-- Each slot that lives is kept under a name of its own. -/
  distinct : ((vacant limit).afterAll actions).held.Nodup
  /-- Those that live and the places out of hand are all that is counted. -/
  counted : UndoesOnly ((vacant limit).history actions) →
    ((vacant limit).afterAll actions).pool.active =
      ((vacant limit).afterAll actions).held.length + outOfHand ((vacant limit).history actions)
  admitted : UndoesOnly ((vacant limit).history actions) → ∀ a, a.IsAttempt →
    ((((vacant limit).afterAll actions).perform a).1 = true ↔
      ((vacant limit).afterAll actions).held.length +
        outOfHand ((vacant limit).history actions) < limit)
  /-- Where every slot has been dropped, and every place that was taken by hand given back, all
  places can be taken again, and no more. -/
  refilled : UndoesOnly ((vacant limit).history actions) →
    ((vacant limit).afterAll actions).held = [] → outOfHand ((vacant limit).history actions) = 0 →
    ∀ attempts, (∀ a ∈ attempts, a.IsAttempt) → (attempts.filterMap Action.slotName?).Nodup →
      (((vacant limit).afterAll actions).history attempts).map Prod.snd =
        List.replicate (min attempts.length limit) true ++
          List.replicate (attempts.length - limit) false

/-- In every run a pool admits as many as it has places for, whether they are taken with slots or by
hand, and no place that is given back is lost. -/
theorem run_admits (limit : Nat) (actions : List Action) : Admits limit actions := by
  obtain ⟨same, within, distinct⟩ := run_bounded limit actions
  have attempt (a : Action) (attempt : a.IsAttempt) :=
    (change ((vacant limit).afterAll actions) a).attempt attempt
  refine ⟨within, fun a asks no => (attempt a asks).2 no, distinct, run_counted limit actions,
    fun undoes a asks => ?_, fun undoes empty returned attempts all names => ?_⟩
  · have counted := run_counted limit actions undoes
    rw [(attempt a asks).1, same, ← counted]
  · have counted := run_counted limit actions undoes
    rw [Counted, empty, returned] at counted
    rw [answers_attempts _ attempts all (by rwa [empty, List.nil_append]), same, counted]
    rfl

private def errands : List Action :=
  [.acquire 1, .add, .acquire 2, .release 1, .acquire 3, .remove, .release 3]

/-- Two places, one of them taken by hand; a third slot is refused. When all is given back, two of
three attempts succeed. -/
theorem run_admits_errands :
    ((vacant 2).history errands).map Prod.snd = [true, true, false, true, true, true, true] ∧
    UndoesOnly ((vacant 2).history errands) ∧
    (((vacant 2).afterAll errands).history [.add, .acquire 4, .acquire 5]).map Prod.snd =
      [true, true, false] := by
  have undoes : UndoesOnly ((vacant 2).history errands) := by decide
  refine ⟨by decide, undoes, ?_⟩
  exact (run_admits 2 errands).refilled undoes (by decide) (by decide) _
    (by simp [Action.IsAttempt]) (by decide)

end Slots

end ProxyMeter.Gate
