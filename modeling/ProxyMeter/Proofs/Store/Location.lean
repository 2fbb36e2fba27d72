import ProxyMeter.Proofs.Store.Directory
import ProxyMeter.Proofs.Text.Percent

/-!
# Which file a path opens

The address of a path is read by rules that the path was not written for. What follows a question
mark in the path becomes part of the parameters. Where a percent sign stands before two hexadecimal
digits, the file has another name than the path. Any other path opens the file that it names, in the
directory that was made for it.
-/

namespace ProxyMeter.Store.Location

open Text

/-! ### What an address stands for -/

/-- A path that names a file. -/
structure NamesFile (path : String) : Prop where
  some : path ≠ ""
  unschemed : ¬ "sqlite:".toList <+: path.toList
  onDisk : path ≠ ":memory:"

/-- A path that an address has no other reading for. -/
structure IsPlain (path : String) : Prop where
  unquestioned : '?' ∉ path.toList
  unescaped : hasEscape path.toList = false

/-- A text that does not begin with a word stays. -/
theorem withoutLeading_of_not_prefix {word cs : List Char} (other : ¬ word <+: cs) (fuel : Nat) :
    withoutLeading word fuel cs = cs := by
  cases fuel with
  | zero => rfl
  | succ fuel => simp [withoutLeading, other]

/-- A word without a character is not begun before it and ended after it. -/
theorem prefix_of_prefix_append {word cs rest : List Char} {c : Char} (other : c ∉ word)
    (front : word <+: cs ++ c :: rest) : word <+: cs := by
  rcases List.prefix_or_prefix_of_prefix front (List.prefix_append cs (c :: rest)) with
    inside | ⟨more, rfl⟩
  · exact inside
  · rw [List.prefix_append_right_inj] at front
    cases more with
    | nil => simp
    | cons d more =>
      have same := (List.cons_prefix_cons.mp front).1
      simp [same] at other

/-- The scheme is taken off an address once, and what comes before the first question mark after it
is decoded. -/
theorem decode?_address {path : String} {front rest : List Char} (named : NamesFile path)
    (cut : path.toList ++ "?mode=rwc".toList = front ++ '?' :: rest) (first : '?' ∉ front) :
    decode? (address path) =
      (ofUtf8? (percentDecoded (utf8 (String.ofList front)))).map
        (·, some (String.ofList rest)) := by
  have short : ¬ "sqlite:".toList <+: front ++ '?' :: rest := by
    intro scheme
    rw [← cut] at scheme
    exact named.unschemed (prefix_of_prefix_append (by decide) scheme)
  have long : ¬ "sqlite://".toList <+: front ++ '?' :: rest :=
    fun scheme => short (List.IsPrefix.trans (by decide) scheme)
  have text : (address path).toList = "sqlite://".toList ++ (front ++ '?' :: rest) := by
    rw [← cut, address, String.toList_append, String.toList_append, List.append_assoc]
  have stripped : withoutLeading "sqlite://".toList (address path).toList.length
      (address path).toList = front ++ '?' :: rest := by
    have again : "sqlite://".toList.length = 8 + 1 := rfl
    rw [text, List.length_append, again, Nat.add_right_comm, withoutLeading, if_pos (by simp),
      List.drop_left, withoutLeading_of_not_prefix long]
  have file : (front ++ '?' :: rest).takeWhile (· ≠ '?') = front := by
    rw [List.takeWhile_append_of_pos]
    · simp
    · intro c member
      have other : c ≠ '?' := fun same => first (same ▸ member)
      simpa using other
  simp only [decode?, stripped, withoutLeading_of_not_prefix short, file, List.drop_left]

/-- The address of a path without a question mark has the parameter that it was given. -/
theorem decode?_address_of_notMem {path : String} (named : NamesFile path)
    (unquestioned : '?' ∉ path.toList) : decode? (address path) =
      (ofUtf8? (percentDecoded (utf8 path))).map (·, some "mode=rwc") := by
  have cut : path.toList ++ "?mode=rwc".toList = path.toList ++ '?' :: "mode=rwc".toList := rfl
  simpa only [String.ofList_toList] using decode?_address named cut unquestioned

/-- The address of a path with a question mark has other parameters. -/
theorem decode?_address_of_mem {path : String} (named : NamesFile path)
    (questioned : '?' ∈ path.toList) {file parameters : String}
    (decoded : decode? (address path) = some (file, some parameters)) :
    '?' ∈ parameters.toList := by
  obtain ⟨front, rest, here, first⟩ := List.eq_append_cons_of_mem questioned
  have cut : path.toList ++ "?mode=rwc".toList = front ++ '?' :: (rest ++ "?mode=rwc".toList) := by
    rw [here, List.append_assoc, List.cons_append]
  rw [decode?_address named cut first] at decoded
  simp only [Option.map_eq_some_iff, Prod.mk.injEq, Option.some.injEq] at decoded
  obtain ⟨-, -, -, rfl⟩ := decoded
  simp

/-- An address stands for its path, with the one parameter, exactly if the path is plain. -/
theorem decode?_address_eq_iff {path : String} (named : NamesFile path) :
    decode? (address path) = some (path, some "mode=rwc") ↔ IsPlain path := by
  constructor
  · intro decoded
    have unquestioned : '?' ∉ path.toList := by
      intro questioned
      exact absurd (decode?_address_of_mem named questioned decoded) (by decide)
    rw [decode?_address_of_notMem named unquestioned] at decoded
    simp only [Option.map_eq_some_iff, Prod.mk.injEq, and_true, exists_eq_right] at decoded
    rw [ofUtf8?_eq_some_iff] at decoded
    exact ⟨unquestioned, (percentDecoded_utf8_eq_self_iff path).mp decoded.symm⟩
  · intro plain
    rw [decode?_address_of_notMem named plain.unquestioned,
      (percentDecoded_utf8_eq_self_iff path).mpr plain.unescaped, ofUtf8?_eq_some_iff.mpr rfl]
    rfl

/-! ### What is opened -/

/-- A place for a database file: under names that the disk can have, where there is neither a
directory nor another file. -/
structure Free (d : Disk) (place : Place) : Prop where
  vacant : d.isDirectory place = false
  names : place.names.all Disk.isName = true
  unforeign : d.files.lookup place ≠ some .foreign

/-- The disk on which there is a database at a place, besides what there was. -/
def withDatabase (d : Disk) (place : Place) : Disk :=
  match d.files.lookup place with
  | some _ => d
  | none => { d with files := d.files ++ [(place, .database)] }

/-- What is connected to is a file with the name that the address stands for. -/
theorem connect_eq_ok_iff {d d' : Disk} {path : String} :
    connect d path = .ok d' ↔ isWellFormed path = true ∧
      ∃ file, decode? (address path) = some (file, some "mode=rwc") ∧
        openFile d (address path) file = .ok d' := by
  unfold connect
  cases isWellFormed path with
  | false => simp
  | true =>
    rw [if_neg (by simp)]
    split
    · next file decoded => simp [decoded]
    · next other =>
      simp only [reduceCtorEq, true_and, false_iff, not_exists, not_and]
      intro file decoded
      exact absurd decoded (other file)

/-- A file can be opened in a directory at a free place, and is then a database. -/
theorem openFile_eq_ok_iff {d d' : Disk} {file : String} (address : String) (some : file ≠ "") :
    openFile d address file = .ok d' ↔ d.isDirectory (Place.ofPath file).up = true ∧
      Free d (Place.ofPath file) ∧ d' = withDatabase d (Place.ofPath file) := by
  unfold openFile withDatabase
  dsimp only
  rw [if_neg some]
  constructor
  · intro opened
    split at opened
    · cases opened
    next usable =>
    simp only [Bool.not_eq_true', Bool.not_eq_false, Bool.and_eq_true] at usable
    obtain ⟨⟨inside, vacant⟩, names⟩ := usable
    split at opened
    · cases opened
    · next found =>
      cases opened
      exact ⟨inside, ⟨by simpa using vacant, names, by simp [found]⟩, by rw [found]⟩
    · next missing =>
      cases opened
      exact ⟨inside, ⟨by simpa using vacant, names, by simp [missing]⟩, by rw [missing]⟩
  · rintro ⟨inside, free, rfl⟩
    rw [if_neg (by simp [inside, free.vacant, free.names])]
    have unforeign := free.unforeign
    split
    · next foreign => exact absurd foreign unforeign
    · next found => rw [found]
    · next missing => rw [missing]

/-- Nothing else is changed where a database is opened. -/
theorem lookup_withDatabase_of_ne (d : Disk) {place other : Place} (apart : other ≠ place) :
    (withDatabase d place).files.lookup other = d.files.lookup other := by
  unfold withDatabase
  split
  · rfl
  · rw [List.lookup_append, List.lookup_cons, show (other == place) = false by simpa using apart]
    simp

/-- There is a database where one was opened. -/
theorem lookup_withDatabase_self {d : Disk} {place : Place} (free : Free d place) :
    (withDatabase d place).files.lookup place = some .database := by
  have unforeign := free.unforeign
  unfold withDatabase
  split
  · next content found =>
    cases content with
    | database => exact found
    | foreign => exact absurd found unforeign
  · next missing =>
    rw [List.lookup_append, missing]
    simp

/-- What is known of the file that is opened for a path. -/
structure Opens (path : String) : Prop where
  /-- The address stands for the path itself, with the one parameter, if the path is plain, and not
  otherwise. -/
  itself_iff : decode? (address path) = some (path, some "mode=rwc") ↔ IsPlain path
  /-- The addresses of different plain paths stand for different files. -/
  apart : IsPlain path → ∀ other, NamesFile other → IsPlain other →
    decode? (address other) = decode? (address path) → other = path
  /-- The directory that is made is the one that holds the file which the path names. -/
  directory : ∀ d d₁, prepared? d path = some d₁ → d₁.isDirectory (Place.ofPath path).up = true
  /-- A plain path with a well-formed address opens that file, if it can be made. -/
  opened_iff : IsPlain path → ∀ d d', openAt d path = .ok d' ↔
    isWellFormed path = true ∧ ∃ d₁, prepared? d path = some d₁ ∧
      Free d₁ (Place.ofPath path) ∧ d' = withDatabase d₁ (Place.ofPath path)
  /-- The address of a path with a question mark has other parameters. -/
  questioned : '?' ∈ path.toList → ∀ file, decode? (address path) ≠ some (file, some "mode=rwc")
  /-- What is opened for any other path has its decoded name, and no other file is changed. -/
  decoded : '?' ∉ path.toList → ∀ d d', openAt d path = .ok d' →
    ∃ file, utf8 file = percentDecoded (utf8 path) ∧
      d'.files.lookup (Place.ofPath file) = some .database ∧
      ∀ place, place ≠ Place.ofPath file → d'.files.lookup place = d.files.lookup place

/-- The file that is opened for a path is the one that the path names, unless the path has a
question mark or an escape in it. -/
theorem opens {path : String} (named : NamesFile path) : Opens path := by
  have itself (plain : IsPlain path) := (decode?_address_eq_iff named).mpr plain
  refine ⟨decode?_address_eq_iff named, ?_, fun _ _ => isDirectory_of_prepared?, ?_, ?_, ?_⟩
  · intro plain other named' plain' same
    rw [itself plain, (decode?_address_eq_iff named').mpr plain'] at same
    simpa using same
  · intro plain d d'
    have file (d₁ : Disk) : connect d₁ path = .ok d' ↔ isWellFormed path = true ∧
        d₁.isDirectory (Place.ofPath path).up = true ∧ Free d₁ (Place.ofPath path) ∧
        d' = withDatabase d₁ (Place.ofPath path) := by
      rw [← openFile_eq_ok_iff (address path) named.some, connect_eq_ok_iff, itself plain]
      simp
    simp only [openAt_eq_ok_iff, file]
    constructor
    · rintro ⟨d₁, made, formed, -, free, rfl⟩
      exact ⟨formed, d₁, made, free, rfl⟩
    · rintro ⟨formed, d₁, made, free, rfl⟩
      exact ⟨d₁, made, formed, isDirectory_of_prepared? made, free, rfl⟩
  · intro questioned file decoded
    exact absurd (decode?_address_of_mem named questioned decoded) (by decide)
  · intro unquestioned d d' opened
    obtain ⟨d₁, made, connected⟩ := openAt_eq_ok_iff.mp opened
    obtain ⟨-, file, decoded, openedFile⟩ := connect_eq_ok_iff.mp connected
    have text : utf8 file = percentDecoded (utf8 path) := by
      rw [decode?_address_of_notMem named unquestioned] at decoded
      simpa [ofUtf8?_eq_some_iff] using decoded
    have name : file ≠ "" := by
      rintro rfl
      rw [utf8_eq_nil_iff.mpr rfl] at text
      exact percentDecoded_ne_nil (mt utf8_eq_nil_iff.mp named.some) text.symm
    obtain ⟨-, free, rfl⟩ := (openFile_eq_ok_iff _ name).mp openedFile
    refine ⟨file, text, lookup_withDatabase_self free, ?_⟩
    intro place other
    rw [lookup_withDatabase_of_ne d₁ other, prepared?_files made]

/-- A percent sign that no digits follow is part of the name. -/
theorem opens_percent : NamesFile "data/50%.db" ∧ IsPlain "data/50%.db" ∧
    openAt {} "data/50%.db" = .ok
      { directories := [Place.ofPath "data"], files := [(Place.ofPath "data/50%.db", .database)] } ∧
    Opens "data/50%.db" := by
  have named : NamesFile "data/50%.db" := ⟨by decide, by decide, by decide⟩
  exact ⟨named, ⟨by decide, by decide⟩, by decide +kernel, opens named⟩

/-- An escape opens another file than the one of the path, and the same as another path. -/
theorem opens_other_for_escape : NamesFile "a%41.db" ∧ NamesFile "aA.db" ∧
    decode? (address "a%41.db") = some ("aA.db", some "mode=rwc") ∧
    decode? (address "aA.db") = some ("aA.db", some "mode=rwc") ∧
    openAt {} "a%41.db" = .ok { files := [(Place.ofPath "aA.db", .database)] } ∧
    Place.ofPath "a%41.db" ≠ Place.ofPath "aA.db" := by
  refine ⟨⟨by decide, by decide, by decide⟩, ⟨by decide, by decide, by decide⟩, ?_⟩
  decide +kernel

end ProxyMeter.Store.Location
