import Mathlib.Data.List.Induction
import ProxyMeter.Proofs.Store.Opening

/-!
# The directory of a path

The path that holds a path is told by the text alone: it ends before the last step that is more than
a separator. Its place is the one from which this step leads to the place of the path. So once the
directories of the one have been made, the other lies in a directory.
-/

namespace ProxyMeter.Store

/-! ### Places on the way -/

namespace Place

theorem walk_append (p : Place) (xs ys : List String) :
    p.walk (xs ++ ys) = (p.walk xs).walk ys := by
  induction xs generalizing p with
  | nil => rfl
  | cons x xs ih =>
    simp only [List.cons_append, walk]
    split
    · exact ih _
    split
    · exact ih _
    · exact ih _

/-- An empty step leads nowhere, and neither does a point. -/
theorem walk_of_still {step : String} (still : step = "" ∨ step = ".") (p : Place)
    (rest : List String) : p.walk (step :: rest) = p.walk rest := by
  rw [walk, if_pos still]

/-- A path is walked from the root if it begins with a separator. -/
theorem ofPath_eq (path : String) : ofPath path = (start path).1.walk (Text.cut '/' path) := by
  unfold ofPath start
  split
  · next step rest cut =>
    rw [cut, walk_of_still (.inl rfl)]
  · rfl

end Place

namespace Disk

/-- A place is a directory, and so is every place on the way to it. -/
def Reached (d : Disk) (p : Place) : Prop :=
  ∀ n, d.isDirectory { p with names := p.names.take n } = true

theorem Reached.isDirectory {d : Disk} {p : Place} (h : d.Reached p) : d.isDirectory p = true := by
  have whole := h p.names.length
  rwa [List.take_length] at whole

theorem reached_start (d : Disk) (fromRoot : Bool) : d.Reached ⟨fromRoot, []⟩ := by
  intro n
  simp [Disk.isDirectory]

/-- The place that holds it is one as well. -/
theorem Reached.up {d : Disk} {p : Place} (h : d.Reached p) : d.Reached p.up := by
  intro n
  unfold Place.up
  by_cases back : p.names.all (· = "..") = true
  · rw [if_pos back]
    by_cases root : p.fromRoot = true
    · rw [if_pos root]
      exact h n
    · -- Above the working directory there are directories only.
      rw [if_neg root, Disk.isDirectory, Bool.or_eq_true]
      left
      rw [List.all_eq_true] at back ⊢
      intro name member
      have member := List.mem_of_mem_take member
      simp only [Place.down, List.mem_append, List.mem_singleton] at member
      rcases member with before | rfl
      · exact back name before
      · rfl
  · rw [if_neg back, List.dropLast_eq_take]
    simp only [List.take_take]
    exact h _

/-- A place in it is one if it is a directory. -/
theorem Reached.down {d : Disk} {p : Place} {name : String} (h : d.Reached p)
    (there : d.isDirectory (p.down name) = true) : d.Reached (p.down name) := by
  intro n
  by_cases within : n ≤ p.names.length
  · simp only [Place.down, List.take_append_of_le_length within]
    exact h n
  · have whole : (p.names ++ [name]).take n = p.names ++ [name] := by
      apply List.take_of_length_le
      rw [List.length_append, List.length_singleton]
      omega
    simp only [Place.down, whole]
    exact there

theorem Reached.mono {d d' : Disk} {p : Place} (h : d.Reached p) (more : d'.HasDirectoriesOf d) :
    d'.Reached p :=
  fun n => more _ (h n)

/-- The place at the end of steps is reached when the directories along them have been made. -/
theorem makeAlong?_reached {d d' : Disk} {p : Place} {steps : List String} (h : d.Reached p)
    (made : d.makeAlong? p steps = some d') : d'.Reached (p.walk steps) := by
  induction steps generalizing d p with
  | nil =>
    cases made
    exact h
  | cons step rest ih =>
    simp only [makeAlong?] at made
    unfold Place.walk
    split at made
    · cases made
    split at made
    · next same =>
      rw [if_pos same]
      exact ih h made
    next other =>
    rw [if_neg other]
    split at made
    · next back =>
      rw [if_pos back]
      exact ih h.up made
    next onward =>
    rw [if_neg onward]
    split at made
    · next there => exact ih (h.down there) made
    split at made
    · cases made
    · exact ih ((h.mono (hasDirectoriesOf_append d _)).down (isDirectory_append_self d _)) made

/-- A step from a place that is reached leads to one that is held by a directory. -/
theorem Reached.up_walk {d : Disk} {p : Place} (h : d.Reached p) (step : String) :
    d.isDirectory (p.walk [step]).up = true := by
  simp only [Place.walk]
  split
  · exact h.up.isDirectory
  split
  · exact h.up.up.isDirectory
  · next back =>
    have onward : (p.down step).up = p := by
      simp [Place.up, Place.down, back]
    rw [onward]
    exact h.isDirectory

end Disk

/-! ### The text of a path -/

namespace Location

/-- The places of the steps in a path that are more than separators, the last first. -/
def stepPlaces (steps : List String) : List Nat :=
  ((List.range steps.length).filter fun i => isStep i (steps.getD i "")).reverse

theorem stepPlaces_concat (steps : List String) (step : String) :
    stepPlaces (steps ++ [step]) =
      if isStep steps.length step then steps.length :: stepPlaces steps else stepPlaces steps := by
  have same : (List.range steps.length).filter (fun i => isStep i ((steps ++ [step]).getD i "")) =
      (List.range steps.length).filter fun i => isStep i (steps.getD i "") := by
    apply List.filter_congr
    intro i member
    rw [List.getD_eq_getElem?_getD, List.getElem?_append_left (List.mem_range.mp member),
      List.getD_eq_getElem?_getD]
  have last : (steps ++ [step]).getD steps.length "" = step := by simp
  rw [stepPlaces, List.length_append, List.length_singleton, List.range_succ, List.filter_append,
    same, List.filter_singleton, last, List.reverse_append]
  cases isStep steps.length step <;> rfl

/-- A step that is no more than a separator leads nowhere. -/
theorem walk_of_not_isStep {i : Nat} {step : String} (still : isStep i step = false) (p : Place) :
    p.walk [step] = p := by
  refine Place.walk_of_still ?_ p []
  simp only [isStep, Bool.and_eq_false_iff] at still
  rcases still with empty | point
  · exact .inl (by simpa using empty)
  · exact .inr (by simp at point; exact point.1)

/-- Nothing is behind the last step but separators. -/
theorem walk_of_stepPlaces {steps : List String} {last : Nat} {rest : List Nat}
    (places : stepPlaces steps = last :: rest) (p : Place) :
    last < steps.length ∧ p.walk steps = p.walk (steps.take (last + 1)) := by
  induction steps using List.reverseRecOn with
  | nil => cases places
  | append_singleton steps step ih =>
    rw [stepPlaces_concat] at places
    rw [List.length_append, List.length_singleton]
    split at places
    · obtain ⟨rfl, -⟩ := List.cons.inj places
      rw [List.take_of_length_le (by simp)]
      exact ⟨Nat.lt_succ_self _, rfl⟩
    · next still =>
      obtain ⟨within, same⟩ := ih places
      rw [List.take_append_of_le_length within, Place.walk_append,
        walk_of_not_isStep (by simpa using still), same]
      exact ⟨by omega, rfl⟩

/-- The last step leads from where the steps before it lead. -/
theorem exists_walk_of_stepPlaces {steps : List String} {last : Nat} {rest : List Nat}
    (places : stepPlaces steps = last :: rest) (p : Place) :
    stepPlaces (steps.take last) = rest ∧
      ∃ step, p.walk steps = (p.walk (steps.take last)).walk [step] := by
  induction steps using List.reverseRecOn with
  | nil => cases places
  | append_singleton steps step ih =>
    rw [stepPlaces_concat] at places
    split at places
    · obtain ⟨rfl, rfl⟩ := List.cons.inj places
      rw [List.take_left]
      exact ⟨rfl, step, Place.walk_append ..⟩
    · next still =>
      obtain ⟨before, step', led⟩ := ih places
      have within := Nat.le_of_lt (walk_of_stepPlaces places p).1
      rw [List.take_append_of_le_length within, Place.walk_append,
        walk_of_not_isStep (by simpa using still)]
      exact ⟨before, step', led⟩

/-- Separators lead nowhere. -/
theorem walk_of_stepPlaces_eq_nil {steps : List String} (none : stepPlaces steps = [])
    (p : Place) : p.walk steps = p := by
  induction steps using List.reverseRecOn with
  | nil => rfl
  | append_singleton steps step ih =>
    rw [stepPlaces_concat] at none
    split at none
    · cases none
    · next still =>
      rw [Place.walk_append, ih none, walk_of_not_isStep (by simpa using still)]

/-- A path that does not begin with a separator is not walked from the root. -/
theorem start_of_cut {path first : String} {more : List String}
    (cut : Text.cut '/' path = first :: more) (name : first ≠ "") :
    (Place.start path).1 = ⟨false, []⟩ := by
  rw [Place.start, cut]
  split
  · next same => exact absurd (List.cons.inj same).1 name
  · rfl

/-- A path is walked from the root exactly if it begins with a separator. -/
theorem start_eq (path : String) : (Place.start path).1 = ⟨path.startsWith "/", []⟩ := by
  have front : path.startsWith "/" = true ↔ ['/'] <+: path.toList := String.startsWith_string_iff
  cases chars : path.toList with
  | nil =>
    obtain rfl := String.toList_eq_nil_iff.mp chars
    rfl
  | cons c cs =>
    obtain ⟨first, more, pieces⟩ := List.exists_cons_of_ne_nil (List.splitOn_ne_nil '/' cs)
    rw [chars, List.cons_prefix_cons] at front
    by_cases separator : c = '/'
    · have cut : Text.cut '/' path = "" :: String.ofList first :: more.map String.ofList := by
        rw [Text.cut, chars, List.splitOn_cons_eq_if_modifyHead, if_pos (by simpa using separator),
          pieces]
        rfl
      rw [Place.start, cut, front.mpr ⟨separator.symm, List.nil_prefix⟩]
      rfl
    · have cut : Text.cut '/' path = String.ofList (c :: first) :: more.map String.ofList := by
        rw [Text.cut, chars, List.splitOn_cons_eq_if_modifyHead, if_neg (by simpa using separator),
          pieces]
        rfl
      have other : path.startsWith "/" = false := by
        rw [Bool.eq_false_iff, ne_eq, front]
        exact fun same => separator same.1.symm
      rw [start_of_cut cut (by simp), other]

/-- A path and one that goes on after a step of it are walked from the same place. -/
theorem start_of_take {path front : String} {n : Nat}
    (cut : Text.cut '/' front = (Text.cut '/' path).take (n + 1))
    (step : isStep n ((Text.cut '/' path).getD n "") = true) :
    (Place.start front).1 = (Place.start path).1 := by
  cases steps : Text.cut '/' path with
  | nil => simp [Place.start, cut, steps]
  | cons first more =>
    rw [steps] at cut step
    by_cases root : first = ""
    · -- The empty step before the separator at the front is none, so another one comes with it.
      subst root
      cases n with
      | zero => simp [isStep] at step
      | succ n => cases more <;> simp [Place.start, cut, steps]
    · rw [start_of_cut cut root, start_of_cut steps root]

/-- The last step of a path leads to its place from the place of the path that holds it, unless the
path has no step at all. -/
theorem ofPath_parent? (path : String) :
    parent? path = none ∧ (Place.ofPath path).names = [] ∨
      ∃ directory step, parent? path = some directory ∧
        Place.ofPath path = (Place.ofPath directory).walk [step] := by
  have told {places : List Nat} (h : stepPlaces (Text.cut '/' path) = places) :
      ((List.range (Text.cut '/' path).length).filter fun i =>
        isStep i ((Text.cut '/' path).getD i "")).reverse = places := h
  rw [Place.ofPath_eq]
  cases places : stepPlaces (Text.cut '/' path) with
  | nil =>
    left
    refine ⟨by simp only [parent?, told places], ?_⟩
    rw [walk_of_stepPlaces_eq_nil places, start_eq]
  | cons last before =>
    right
    obtain ⟨rfl, step, led⟩ := exists_walk_of_stepPlaces places (Place.start path).1
    cases earlier : stepPlaces ((Text.cut '/' path).take last) with
    | nil =>
      rw [earlier] at places
      refine ⟨_, step, by simp only [parent?, told places]; rfl, ?_⟩
      rw [led, walk_of_stepPlaces_eq_nil earlier, start_eq]
      cases path.startsWith "/" <;> rfl
    | cons previous more =>
      rw [earlier] at places
      obtain ⟨within, same⟩ := walk_of_stepPlaces earlier (Place.start path).1
      rw [List.length_take] at within
      rw [List.take_take, Nat.min_eq_left (by omega)] at same
      have cut : Text.cut '/' ("/".intercalate ((Text.cut '/' path).take (previous + 1))) =
          (Text.cut '/' path).take (previous + 1) := by
        apply Text.cut_intercalate rfl
        · rw [← List.length_pos_iff, List.length_take]
          omega
        · exact fun piece member => Text.not_mem_of_mem_cut (List.mem_of_mem_take member)
      have isStep : isStep previous ((Text.cut '/' path).getD previous "") = true := by
        have member : previous ∈ stepPlaces (Text.cut '/' path) := by
          rw [places]
          exact .tail _ (.head _)
        exact (List.mem_filter.mp (List.mem_reverse.mp member)).2
      refine ⟨_, step, by simp only [parent?, told places]; rfl, ?_⟩
      rw [led, same, Place.ofPath_eq, cut, start_of_take cut isStep]

/-! ### Making the directory -/

/-- The disk on which the directory of a path has been made, if there is one to make. -/
def prepared? (d : Disk) (path : String) : Option Disk :=
  match parent? path with
  | none => some d
  | some "" => some d
  | some directory => d.makeDirectories? directory

/-- A connection is made on the disk with the directory. -/
theorem openAt_eq_ok_iff {d d' : Disk} {path : String} :
    openAt d path = .ok d' ↔ ∃ d₁, prepared? d path = some d₁ ∧ connect d₁ path = .ok d' := by
  unfold openAt prepared?
  cases parent? path with
  | none => simp
  | some directory =>
    by_cases here : directory = ""
    · simp [here]
    · cases made : d.makeDirectories? directory <;> simp [made]

/-- The directory of a path is made without a change to any file. -/
theorem prepared?_files {d d₁ : Disk} {path : String} (made : prepared? d path = some d₁) :
    d₁.files = d.files := by
  unfold prepared? at made
  split at made
  · cases made
    rfl
  · cases made
    rfl
  · exact Disk.makeAlong?_files made

/-- When the directory of a path has been made, the place of the path lies in a directory. -/
theorem isDirectory_of_prepared? {d d₁ : Disk} {path : String}
    (made : prepared? d path = some d₁) : d₁.isDirectory (Place.ofPath path).up = true := by
  unfold prepared? at made
  rcases ofPath_parent? path with ⟨-, none⟩ | ⟨directory, step, parent, leads⟩
  · have whole := d₁.reached_start (Place.ofPath path).fromRoot
    rw [← none] at whole
    exact whole.up.isDirectory
  · have reached : d₁.Reached (Place.ofPath directory) := by
      by_cases here : directory = ""
      · rw [here]
        exact d₁.reached_start false
      · have made : d.makeDirectories? directory = some d₁ := by simpa [parent, here] using made
        have base : d.Reached (Place.start directory).1 := by
          rw [start_eq]
          exact d.reached_start _
        exact Disk.makeAlong?_reached base made
    rw [leads]
    exact reached.up_walk step

end Location

end ProxyMeter.Store
