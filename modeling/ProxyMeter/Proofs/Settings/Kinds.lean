import ProxyMeter.Proofs.Text.Numeral
import ProxyMeter.Settings.Document
import ProxyMeter.Settings.Overrides

/-!
# Kinds of settings

There are seven kinds of settings. For each, the texts in the environment and the values in a
document that can be read are told by what they stand for.
-/

namespace ProxyMeter.Settings

/-- The kinds of settings. -/
inductive Kind where
  | text
  /-- A text that may be missing. -/
  | optionalText
  | texts
  | flag
  | word16
  | word32
  | word64

namespace Kind

/-- The values of a setting. -/
abbrev Value : Kind → Type
  | text => String
  | optionalText => Option String
  | texts => List String
  | flag => Bool
  | word16 => UInt16
  | word32 => UInt32
  | word64 => UInt64

/-- The value that a text in the environment stands for. -/
def ofRaw? : (kind : Kind) → String → Option kind.Value
  | text, raw => some raw
  | optionalText, raw => some (some raw)
  | texts, raw => some (partsOf raw)
  | flag, raw => flagIn raw
  | word16, raw => (numberIn (UInt16.size - 1) raw).map UInt16.ofNat
  | word32, raw => (numberIn (UInt32.size - 1) raw).map UInt32.ofNat
  | word64, raw => (numberIn (UInt64.size - 1) raw).map UInt64.ofNat

/-- The value that a value in a document stands for. -/
def ofToml? : (kind : Kind) → Toml.Value → Option kind.Value
  | text, v => text? v
  | optionalText, v => (text? v).map some
  | texts, v => texts? v
  | flag, v => flag? v
  | word16, v => word16? v
  | word32, v => word32? v
  | word64, v => word64? v

end Kind

/-- Words are the numbers up to a bound. -/
structure IsWord {ω : Type} (bound : Nat) (ofNat : Nat → ω) (toNat : ω → Nat) : Prop where
  toNat_le : ∀ x, toNat x ≤ bound
  ofNat_toNat : ∀ x, ofNat (toNat x) = x
  toNat_ofNat : ∀ n ≤ bound, toNat (ofNat n) = n

theorem isWord_uint16 : IsWord (UInt16.size - 1) UInt16.ofNat UInt16.toNat :=
  ⟨fun x => Nat.le_pred_of_lt x.toNat_lt, fun _ => UInt16.ofNat_toNat,
    fun _ small => UInt16.toNat_ofNat_of_lt (Nat.lt_of_le_pred (by decide) small)⟩

theorem isWord_uint32 : IsWord (UInt32.size - 1) UInt32.ofNat UInt32.toNat :=
  ⟨fun x => Nat.le_pred_of_lt x.toNat_lt, fun _ => UInt32.ofNat_toNat,
    fun _ small => UInt32.toNat_ofNat_of_lt (Nat.lt_of_le_pred (by decide) small)⟩

theorem isWord_uint64 : IsWord (UInt64.size - 1) UInt64.ofNat UInt64.toNat :=
  ⟨fun x => Nat.le_pred_of_lt x.toNat_lt, fun _ => UInt64.ofNat_toNat,
    fun _ small => UInt64.toNat_ofNat_of_lt (Nat.lt_of_le_pred (by decide) small)⟩

namespace IsWord

variable {ω : Type} {bound : Nat} {ofNat : Nat → ω} {toNat : ω → Nat}

/-- A number that is at most the greatest word is read as a word. -/
theorem map_eq_some_iff (h : IsWord bound ofNat toNat) {read : Option Nat}
    (within : ∀ n, read = some n → n ≤ bound) (x : ω) :
    read.map ofNat = some x ↔ read = some (toNat x) := by
  rw [Option.map_eq_some_iff]
  constructor
  · rintro ⟨n, found, rfl⟩
    rw [h.toNat_ofNat n (within n found), found]
  · intro found
    exact ⟨toNat x, found, h.ofNat_toNat x⟩

/-- The texts for a word are the numerals of its value, with blanks around them or not. -/
theorem numberIn_eq_some_iff (h : IsWord bound ofNat toNat) (raw : String) (x : ω) :
    (numberIn bound raw).map ofNat = some x ↔ Text.IsNumeral (Text.trim raw) (toNat x) := by
  have read (n : Nat) : numberIn bound raw = some n ↔
      Text.IsNumeral (Text.trim raw) n ∧ n ≤ bound := Text.boundedNumeral?_eq_some_iff
  rw [h.map_eq_some_iff fun n found => ((read n).mp found).2, read]
  exact and_iff_left (h.toNat_le x)

/-- The value for a word in a document is its value as an integer. -/
theorem natural?_eq_some_iff (h : IsWord bound ofNat toNat) (v : Toml.Value) (x : ω) :
    (natural? bound v).map ofNat = some x ↔ v = .integer (toNat x) := by
  have read (n : Nat) : natural? bound v = some n ↔ v = .integer n ∧ n ≤ bound := by
    cases v with
    | integer value =>
      simp only [natural?, Option.ite_none_right_eq_some, Option.some.injEq,
        Toml.Value.integer.injEq]
      omega
    | _ => simp [natural?]
  rw [h.map_eq_some_iff fun n found => ((read n).mp found).2, read]
  exact and_iff_left (h.toNat_le x)

end IsWord

/-- What a text in the environment stands for, for each kind of setting. -/
structure Readings (raw : String) : Prop where
  /-- Texts are taken as they are. -/
  text : Kind.text.ofRaw? raw = some raw
  optionalText : Kind.optionalText.ofRaw? raw = some (some raw)
  /-- A list is cut at its commas; its pieces are trimmed, and the empty ones are left out. -/
  texts : ∃ pieces : List String, [','].intercalate (pieces.map String.toList) = raw.toList ∧
    (∀ piece ∈ pieces, ',' ∉ piece.toList) ∧
    Kind.texts.ofRaw? raw = some ((pieces.map Text.trim).filter (· ≠ ""))
  flag : ∀ b : Bool, Kind.flag.ofRaw? raw = some b ↔
    Text.trim raw = if b then "true" else "false"
  word16 : ∀ n : UInt16, Kind.word16.ofRaw? raw = some n ↔ Text.IsNumeral (Text.trim raw) n.toNat
  word32 : ∀ n : UInt32, Kind.word32.ofRaw? raw = some n ↔ Text.IsNumeral (Text.trim raw) n.toNat
  word64 : ∀ n : UInt64, Kind.word64.ofRaw? raw = some n ↔ Text.IsNumeral (Text.trim raw) n.toNat

/-- The texts in the environment are read as that. -/
theorem readings (raw : String) : Readings raw where
  text := rfl
  optionalText := rfl
  texts := ⟨Text.cut ',' raw, Text.intercalate_cut ',' raw, fun _ => Text.not_mem_of_mem_cut, rfl⟩
  flag b := by
    show flagIn raw = some b ↔ _
    unfold flagIn
    cases b <;> grind
  word16 := isWord_uint16.numberIn_eq_some_iff raw
  word32 := isWord_uint32.numberIn_eq_some_iff raw
  word64 := isWord_uint64.numberIn_eq_some_iff raw

/-- What a value in a document stands for, for each kind of setting. Every other value spoils the
document. -/
structure Entries (v : Toml.Value) : Prop where
  text : ∀ s : String, Kind.text.ofToml? v = some s ↔ v = .string s
  optionalText : ∀ x : Option String,
    Kind.optionalText.ofToml? v = some x ↔ ∃ s, x = some s ∧ v = .string s
  texts : ∀ xs : List String, Kind.texts.ofToml? v = some xs ↔ v = .array (xs.map .string)
  flag : ∀ b : Bool, Kind.flag.ofToml? v = some b ↔ v = .boolean b
  word16 : ∀ n : UInt16, Kind.word16.ofToml? v = some n ↔ v = .integer n.toNat
  word32 : ∀ n : UInt32, Kind.word32.ofToml? v = some n ↔ v = .integer n.toNat
  word64 : ∀ n : UInt64, Kind.word64.ofToml? v = some n ↔ v = .integer n.toNat

theorem text?_eq_some_iff (v : Toml.Value) (s : String) : text? v = some s ↔ v = .string s := by
  cases v <;> simp [text?]

/-- A list of texts is an array of nothing else. -/
theorem mapM_text?_eq_some_iff (items : List Toml.Value) (xs : List String) :
    items.mapM text? = some xs ↔ items = xs.map .string := by
  induction items generalizing xs with
  | nil => simp [eq_comm]
  | cons v items ih =>
    cases xs with
    | nil => simp [Option.bind_eq_some_iff]
    | cons x xs => simp [Option.bind_eq_some_iff, text?_eq_some_iff, ih]

/-- The values in a document are read as that. -/
theorem entries (v : Toml.Value) : Entries v where
  text := text?_eq_some_iff v
  optionalText x := by
    show (text? v).map some = some x ↔ _
    rw [Option.map_eq_some_iff]
    simp only [text?_eq_some_iff]
    grind
  texts xs := by
    show texts? v = some xs ↔ _
    cases v with
    | array items =>
      rw [texts?, mapM_text?_eq_some_iff, Toml.Value.array.injEq]
    | _ => simp [texts?]
  flag b := by
    show flag? v = some b ↔ _
    cases v <;> simp [flag?]
  word16 := isWord_uint16.natural?_eq_some_iff v
  word32 := isWord_uint32.natural?_eq_some_iff v
  word64 := isWord_uint64.natural?_eq_some_iff v

end ProxyMeter.Settings
