import ProxyMeter.Text.Cut

/-!
# Directories and files

As much of a disk as the opening of a store can tell: which places are directories and which are
files. A place lies below the working directory or below the root; what lies above the working
directory is taken to be directories.
-/

namespace ProxyMeter.Store

/-- A place on the disk, by the names that lead to it. -/
structure Place where
  fromRoot : Bool := false
  names : List String := []
  deriving DecidableEq, Repr

namespace Place

/-- A place inside another. -/
def down (p : Place) (name : String) : Place := { p with names := p.names ++ [name] }

/-- The place that holds another; the root holds itself. -/
def up (p : Place) : Place :=
  if p.names.all (· = "..") then if p.fromRoot then p else p.down ".."
  else { p with names := p.names.dropLast }

/-- The place where a path starts, and its steps. -/
def start (path : String) : Place × List String :=
  match Text.cut '/' path with
  | "" :: step :: rest => (⟨true, []⟩, step :: rest)
  | steps => (⟨false, []⟩, steps)

/-- The place at the end of steps, taken without a look at the disk. -/
def walk (p : Place) : List String → Place
  | [] => p
  | step :: rest =>
    if step = "" ∨ step = "." then p.walk rest
    else if step = ".." then p.up.walk rest
    else (p.down step).walk rest

/-- The place that a path names, read without a look at the disk. -/
def ofPath (path : String) : Place := (start path).1.walk (start path).2

end Place

/-- What a file holds. -/
inductive Content where
  | database
  | foreign
  deriving DecidableEq, Repr

/-- The directories and files of a disk. -/
structure Disk where
  directories : List Place := []
  files : List (Place × Content) := []
  deriving DecidableEq, Repr

namespace Disk

/-- Whether a place is a directory. -/
def isDirectory (d : Disk) (p : Place) : Bool :=
  p.names.all (· = "..") || d.directories.contains p

/-- Whether a place is a file. -/
def isFile (d : Disk) (p : Place) : Bool := (d.files.lookup p).isSome

/-- Whether the disk can have such a name. -/
def isName (name : String) : Bool := !name.toList.contains (Char.ofNat 0) && name.utf8ByteSize ≤ 255

/-- The place at the end of steps, each but the last of which has to lead into a directory. -/
def resolve? (d : Disk) (p : Place) : List String → Option Place
  | [] => some p
  | step :: rest =>
    if !d.isDirectory p || !isName step then none
    else if step = "" ∨ step = "." then d.resolve? p rest
    else if step = ".." then d.resolve? p.up rest
    else d.resolve? (p.down step) rest

/-- Whether there is something at a path. -/
def holds (d : Disk) (path : String) : Bool :=
  match d.resolve? (Place.start path).1 (Place.start path).2 with
  | some p => path ≠ "" && (d.isDirectory p || d.isFile p)
  | none => false

/-- The disk with directories made along steps; none where a step is no directory. -/
def makeAlong? (d : Disk) (p : Place) : List String → Option Disk
  | [] => some d
  | step :: rest =>
    if !isName step then none
    else if step = "" ∨ step = "." then d.makeAlong? p rest
    else if step = ".." then d.makeAlong? p.up rest
    else
      let next := p.down step
      if d.isDirectory next then d.makeAlong? next rest
      else if d.isFile next then none
      else { d with directories := d.directories ++ [next] }.makeAlong? next rest

/-- The disk with all directories of a path. -/
def makeDirectories? (d : Disk) (path : String) : Option Disk :=
  d.makeAlong? (Place.start path).1 (Place.start path).2

end Disk

end ProxyMeter.Store
