import Mathlib.Data.List.Basic
import ProxyMeter.Store.Location

/-!
# Opening a database again

The directories of a path are made before its file is, and what is made stays. So a path at which a
database was opened once can be opened again, and then nothing on the disk changes.
-/

namespace ProxyMeter.Store

namespace Disk

/-- One disk has all the directories of another. -/
def HasDirectoriesOf (d d' : Disk) : Prop :=
  ∀ p, d'.isDirectory p = true → d.isDirectory p = true

/-- More directories take none away. -/
theorem hasDirectoriesOf_append (d : Disk) (more : List Place) :
    HasDirectoriesOf { d with directories := d.directories ++ more } d := by
  intro p there
  simp only [isDirectory, Bool.or_eq_true, List.contains_iff_mem, List.mem_append] at there ⊢
  tauto

/-- A place that was made a directory is one. -/
theorem isDirectory_append_self (d : Disk) (p : Place) :
    isDirectory { d with directories := d.directories ++ [p] } p = true := by
  simp [isDirectory]

/-- Making directories takes none away. -/
theorem makeAlong?_hasDirectoriesOf {d d' : Disk} {p : Place} {steps : List String}
    (made : d.makeAlong? p steps = some d') : d'.HasDirectoriesOf d := by
  induction steps generalizing d p with
  | nil =>
    cases made
    exact fun _ there => there
  | cons step rest ih =>
    simp only [makeAlong?] at made
    split at made
    · cases made
    split at made
    · exact ih made
    split at made
    · exact ih made
    split at made
    · exact ih made
    split at made
    · cases made
    · exact fun q there => ih made q (hasDirectoriesOf_append d _ q there)

/-- Making directories changes no file. -/
theorem makeAlong?_files {d d' : Disk} {p : Place} {steps : List String}
    (made : d.makeAlong? p steps = some d') : d'.files = d.files := by
  induction steps generalizing d p with
  | nil =>
    cases made
    rfl
  | cons step rest ih =>
    simp only [makeAlong?] at made
    split at made
    · cases made
    split at made
    · exact ih made
    split at made
    · exact ih made
    split at made
    · exact ih made
    split at made
    · cases made
    · -- A directory is added to the others; the files of that disk are the same.
      exact (ih made).trans rfl

/-- On a disk that has all the directories that were made along some steps, there is none left to
make. -/
theorem makeAlong?_eq_self {d d₁ d' : Disk} {p : Place} {steps : List String}
    (made : d.makeAlong? p steps = some d₁) (more : d'.HasDirectoriesOf d₁) :
    d'.makeAlong? p steps = some d' := by
  induction steps generalizing d p with
  | nil => rfl
  | cons step rest ih =>
    simp only [makeAlong?] at made ⊢
    split at made
    · cases made
    next name =>
    rw [if_neg name]
    split at made
    · next same =>
      rw [if_pos same]
      exact ih made
    next other =>
    rw [if_neg other]
    split at made
    · next back =>
      rw [if_pos back]
      exact ih made
    next onward =>
    rw [if_neg onward]
    -- Whether the next place was a directory or was made one, it is one now.
    split at made
    · next there =>
      rw [if_pos (more _ (makeAlong?_hasDirectoriesOf made _ there))]
      exact ih made
    split at made
    · cases made
    · rw [if_pos (more _ (makeAlong?_hasDirectoriesOf made _ (isDirectory_append_self d _)))]
      exact ih made

end Disk

namespace Location

/-- Opening a file changes no directories. -/
theorem openFile_directories {d d' : Disk} {address file : String}
    (opened : openFile d address file = .ok d') : d'.directories = d.directories := by
  unfold openFile at opened
  dsimp only at opened
  split at opened
  · cases opened
    rfl
  split at opened
  · cases opened
  split at opened
  · cases opened
  · cases opened
    rfl
  · cases opened
    rfl

/-- A file that was opened can be opened again, and is there already. -/
theorem openFile_again {d d' : Disk} {address file : String}
    (opened : openFile d address file = .ok d') : openFile d' address file = .ok d' := by
  have same := openFile_directories opened
  have directory (p : Place) : d'.isDirectory p = d.isDirectory p := by
    rw [Disk.isDirectory, Disk.isDirectory, same]
  unfold openFile at opened ⊢
  dsimp only at opened ⊢
  simp only [directory]
  split at opened
  · next nowhere => rw [if_pos nowhere]
  next name =>
  rw [if_neg name]
  split at opened
  · cases opened
  next usable =>
  rw [if_neg usable]
  split at opened
  · cases opened
  · next found =>
    cases opened
    rw [found]
  · next missing =>
    cases opened
    rw [List.lookup_append, missing]
    simp

/-- A connection to a database changes no directories. -/
theorem connect_directories {d d' : Disk} {path : String} (opened : connect d path = .ok d') :
    d'.directories = d.directories := by
  unfold connect at opened
  split at opened
  · cases opened
  split at opened
  · exact openFile_directories opened
  · cases opened

/-- A database that was connected to can be connected to again. -/
theorem connect_again {d d' : Disk} {path : String} (opened : connect d path = .ok d') :
    connect d' path = .ok d' := by
  unfold connect at opened ⊢
  split at opened
  · cases opened
  next formed =>
  rw [if_neg formed]
  split at opened
  · exact openFile_again opened
  · cases opened

/-- A database that was opened can be opened again, and this changes nothing on the disk. -/
theorem openAt_again {d d' : Disk} {path : String} (opened : openAt d path = .ok d') :
    openAt d' path = .ok d' := by
  unfold openAt at opened ⊢
  split at opened
  · exact connect_again opened
  · exact connect_again opened
  next directory _ _ =>
  split at opened
  · cases opened
  next d₁ made =>
  have more : d'.HasDirectoriesOf d₁ := by
    intro p there
    rw [Disk.isDirectory, connect_directories opened]
    exact there
  have again : d'.makeDirectories? directory = some d' := Disk.makeAlong?_eq_self made more
  rw [again]
  exact connect_again opened

end Location
end ProxyMeter.Store
