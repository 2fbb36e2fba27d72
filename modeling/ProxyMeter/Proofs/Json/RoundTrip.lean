import Mathlib.Data.Bool.AllAny
import Mathlib.Data.List.TakeWhile
import ProxyMeter.Json.Parser
import ProxyMeter.Json.Printer
import ProxyMeter.Proofs.Text.Numeral

/-!
# JSON that is read back

A value without decimals, all of whose strings stand for texts, is read back from its compact form
(`parse?_render`). A string literal is read element by element, as it was written; an integer ends
where no more digits come and nothing that would make it a decimal. The fuel of the reader is
enough, as a value is no deeper than it is long.
-/

namespace ProxyMeter.Json

/-! ### Texts -/

/-- The hexadecimal digits of a control character tell the character. -/
theorem unit?_hexDigit : ∀ n < 0x20,
    unit? '0' '0' (Text.hexDigit (n / 16)) (Text.hexDigit (n % 16)) = some n := by decide

/-- A character is read back from the way it is written. -/
theorem element?_escaped (c : Char) (rest : List Char) :
    element? (escaped c ++ rest) = some (some c, rest) := by
  unfold escaped
  split_ifs with quote backslash newline feed tab back form control
  · subst quote
    rfl
  · subst backslash
    rfl
  · subst newline
    rfl
  · subst feed
    rfl
  · subst tab
    rfl
  · rw [← Char.ofNat_toNat c, back]
    rfl
  · rw [← Char.ofNat_toNat c, form]
    rfl
  · have byte : (UInt8.ofNat c.toNat).toNat = c.toNat := Nat.mod_eq_of_lt (by omega)
    have leading : isLeading c.toNat = false := by simp [isLeading]; omega
    have trailing : isTrailing c.toNat = false := by simp [isTrailing]; omega
    rw [Text.hexByte, byte]
    simp [element?, unit?_hexDigit c.toNat control, leading, trailing]
  · simp [element?, backslash, control]

/-- No character is written as the closing quote. -/
theorem head?_escaped_ne (c : Char) : ∃ d more, escaped c = d :: more ∧ d ≠ '"' := by
  unfold escaped
  split_ifs with quote
  all_goals first | exact ⟨_, _, rfl, by decide⟩ | exact ⟨_, _, rfl, quote⟩

/-- The inside of a string literal is read back. -/
theorem literal?_escaped (cs : List Char) {fuel : Nat} (acc : List Char) (sound : String)
    (rest : List Char) (h : (cs.flatMap escaped).length < fuel) :
    literal? fuel acc (some sound) (cs.flatMap escaped ++ '"' :: rest) =
      some (some (String.ofList (acc.reverse ++ cs)), rest) := by
  induction cs generalizing fuel acc with
  | nil =>
    obtain ⟨fuel, rfl⟩ : ∃ k, fuel = k + 1 := ⟨fuel - 1, by omega⟩
    simp [literal?]
  | cons c cs ih =>
    obtain ⟨fuel, rfl⟩ : ∃ k, fuel = k + 1 := ⟨fuel - 1, by omega⟩
    obtain ⟨d, more, written, inside⟩ := head?_escaped_ne c
    have element := element?_escaped c (cs.flatMap escaped ++ '"' :: rest)
    rw [List.flatMap_cons, List.length_append, written, List.length_cons] at h
    rw [List.flatMap_cons, List.append_assoc]
    rw [written, List.cons_append] at element ⊢
    rw [literal?, element]
    · exact (ih (c :: acc) (by omega)).trans (by simp)
    · intro rest same
      exact inside (List.cons.inj same).1

/-- A text is read back from its literal. -/
theorem literal?_quoted (s : String) (rest : List Char) :
    literal? ((s.toList.flatMap escaped ++ '"' :: rest).length + 1) [] (some "")
      (s.toList.flatMap escaped ++ '"' :: rest) = some (some s, rest) := by
  rw [literal?_escaped s.toList [] "" rest (by rw [List.length_append]; omega)]
  simp

/-! ### Integers -/

/-- Whether nothing at the front of a text goes on with a number. -/
def Stops (cs : List Char) : Prop :=
  ∀ c ∈ cs.head?, c.isDigit = false ∧ c ≠ '.' ∧ c ≠ 'e' ∧ c ≠ 'E'

variable {rest : List Char}

theorem digits_append {ds : List Char} (digit : ∀ c ∈ ds, c.isDigit = true) (stops : Stops rest) :
    digits (ds ++ rest) = (ds, rest) := by
  rw [digits, List.takeWhile_append_of_pos digit, List.dropWhile_append_of_pos digit]
  cases rest with
  | nil => simp
  | cons c cs => simp [(stops c rfl).1]

/-- The digits of a number are read as far as they go. -/
theorem whole?_toDigits (n : Nat) (stops : Stops rest) :
    whole? (Nat.toDigits 10 n ++ rest) = some (Nat.toDigits 10 n, rest) := by
  rw [whole?, digits_append (fun _ => Nat.isDigit_of_mem_toDigits (by decide) (by decide)) stops]
  by_cases zero : n = 0
  · subst zero
    rfl
  · have first := Text.head?_toDigits_ne zero
    cases written : Nat.toDigits 10 n with
    | nil => exact absurd written Nat.toDigits_ne_nil
    | cons d ds =>
      have other : d ≠ '0' := by simpa [written] using first
      split <;> simp_all

theorem fraction?_of_stops (stops : Stops rest) : fraction? rest = some ([], rest) := by
  unfold fraction?
  split
  · exact absurd rfl (stops '.' rfl).2.1
  · rfl

theorem exponent?_of_stops (stops : Stops rest) : exponent? rest = some (none, rest) := by
  cases rest with
  | nil => rfl
  | cons c cs => simp [exponent?, (stops c rfl).2.2]

theorem exists_toDigits (n : Nat) :
    ∃ d ds, Nat.toDigits 10 n = d :: ds ∧ d.isDigit = true := by
  obtain ⟨d, ds, written⟩ := List.exists_cons_of_ne_nil (Nat.toDigits_ne_nil (b := 10) (n := n))
  have digit : d ∈ Nat.toDigits 10 n := written ▸ List.mem_cons_self
  exact ⟨d, ds, written, Nat.isDigit_of_mem_toDigits (by decide) (by decide) digit⟩

/-- An integer does not begin as any other value does, nor with a blank or a closing bracket. -/
theorem exists_toString_int (n : Int) : ∃ d ds, (toString n).toList = d :: ds ∧
    d ∉ ['"', '[', '{', 'n', 't', 'f', ']', ' ', '\t', '\n', '\r'] := by
  have apart : ∀ c ∈ ['"', '[', '{', 'n', 't', 'f', ']', ' ', '\t', '\n', '\r'],
      ¬ (c.isDigit = true ∨ c = '-') := List.all_iff_forall_prop.mp (by decide)
  cases n with
  | ofNat n =>
    obtain ⟨d, ds, written, digit⟩ := exists_toDigits n
    exact ⟨d, ds, (Text.toList_toString_natCast n).trans written, fun h => apart d h (.inl digit)⟩
  | negSucc n => exact ⟨_, _, Text.toList_toString_negSucc n, fun h => apart _ h (.inr rfl)⟩

/-- An integer is read back. -/
theorem number?_toString (n : Int) (stops : Stops rest) :
    number? ((toString n).toList ++ rest) = some (.integer n, rest) := by
  have value (n : Nat) : Text.digitsValue? 0 (Nat.toDigits 10 n) = some n :=
    (Text.natural?_eq_some_iff.mp (Text.natural?_toDigits n)).2
  cases n with
  | ofNat n =>
    obtain ⟨d, ds, written, digit⟩ := exists_toDigits n
    have unsigned : d ≠ '-' := by
      rintro rfl
      exact absurd digit (by decide)
    rw [Int.ofNat_eq_natCast, Text.toList_toString_natCast, number?]
    · simp [whole?_toDigits n stops, fraction?_of_stops stops, exponent?_of_stops stops, value]
    · intro more same
      rw [written] at same
      exact unsigned (List.cons.inj same).1
  | negSucc n =>
    rw [Text.toList_toString_negSucc, List.cons_append, number?]
    simp [whole?_toDigits (n + 1) stops, fraction?_of_stops stops, exponent?_of_stops stops, value,
      Int.negSucc_eq]

/-! ### Values -/

mutual

/-- Whether a value has no decimals, and none but texts for its strings. -/
def Value.isPlain : Value → Bool
  | .null | .boolean _ | .number (.integer _) => true
  | .number (.decimal _) => false
  | .string s => s.isSome
  | .array items => itemsPlain items
  | .object members => membersPlain members

/-- Whether all items are plain. -/
def itemsPlain : List Value → Bool
  | [] => true
  | v :: rest => v.isPlain && itemsPlain rest

/-- Whether all members are plain, and have texts for their keys. -/
def membersPlain : List (Literal × Value) → Bool
  | [] => true
  | (key, v) :: rest => key.isSome && v.isPlain && membersPlain rest

end

theorem itemsPlain_iff {vs : List Value} :
    itemsPlain vs = true ↔ ∀ v ∈ vs, v.isPlain = true := by
  induction vs with
  | nil => simp [itemsPlain]
  | cons v vs ih => simp [itemsPlain, ih]

/-- What a value begins with is not passed over, and no closing bracket. -/
theorem exists_chars (v : Value) (plain : v.isPlain = true) :
    ∃ c cs, v.chars = c :: cs ∧ isBlank c = false ∧ c ≠ ']' := by
  match v with
  | .null => exact ⟨_, _, rfl, by decide, by decide⟩
  | .boolean true => exact ⟨_, _, rfl, by decide, by decide⟩
  | .boolean false => exact ⟨_, _, rfl, by decide, by decide⟩
  | .string _ => exact ⟨_, _, rfl, by decide, by decide⟩
  | .array _ => exact ⟨_, _, rfl, by decide, by decide⟩
  | .object _ => exact ⟨_, _, rfl, by decide, by decide⟩
  | .number (.integer n) =>
    obtain ⟨d, ds, written, apart⟩ := exists_toString_int n
    simp only [List.mem_cons, List.not_mem_nil, or_false, not_or] at apart
    exact ⟨d, ds, by rw [Value.chars, Number.render, written], by simp [isBlank, apart], by
      simp [apart]⟩

theorem skipBlanks_cons {c : Char} (h : isBlank c = false) (cs : List Char) :
    skipBlanks (c :: cs) = c :: cs := by
  simp [skipBlanks, h]

/-- Items begin as the first of them does. -/
theorem exists_itemChars {items : List Value} (nonempty : items ≠ [])
    (plain : itemsPlain items = true) :
    ∃ c cs, itemChars items = c :: cs ∧ isBlank c = false ∧ c ≠ ']' := by
  match items with
  | [v] =>
    rw [itemsPlain, Bool.and_eq_true] at plain
    rw [itemChars]
    exact exists_chars v plain.1
  | v :: w :: more =>
    rw [itemsPlain, Bool.and_eq_true] at plain
    obtain ⟨c, cs, begins, first⟩ := exists_chars v plain.1
    exact ⟨c, cs ++ ',' :: itemChars (w :: more), by simp [itemChars, begins], first⟩

/-- Members begin with the opening quote of the first key. -/
theorem exists_memberChars {members : List (Literal × Value)} (nonempty : members ≠ []) :
    ∃ cs, memberChars members = '"' :: cs := by
  match members with
  | [(key, v)] => exact ⟨_, rfl⟩
  | (key, v) :: member :: more => exact ⟨_, rfl⟩

/-- An integer is read back where a value is asked for. -/
theorem value?_int (n : Int) (fuel : Nat) (stops : Stops rest) :
    value? (fuel + 1) ((toString n).toList ++ rest) = some (.number (.integer n), rest) := by
  obtain ⟨d, ds, written, apart⟩ := exists_toString_int n
  simp only [List.mem_cons, List.not_mem_nil, or_false, not_or] at apart
  have number := number?_toString n stops
  rw [written, List.cons_append] at number ⊢
  rw [value?, skipBlanks_cons (by simp [isBlank, apart])]
  simp [apart, number]

theorem stops_of_not {c : Char} (h : c.isDigit = false ∧ c ≠ '.' ∧ c ≠ 'e' ∧ c ≠ 'E')
    (cs : List Char) : Stops (c :: cs) := by
  intro d first
  cases first
  exact h

/-- A text begins with its opening quote and ends with its closing one. -/
theorem quoted_append (s : String) (rest : List Char) :
    quoted s ++ rest = '"' :: (s.toList.flatMap escaped ++ '"' :: rest) := by
  simp [quoted]

mutual

/-- A value is read back from its characters. -/
theorem value?_chars (v : Value) (plain : v.isPlain = true) (fuel : Nat) (rest : List Char)
    (h : v.chars.length ≤ fuel) (stops : Stops rest) :
    value? fuel (v.chars ++ rest) = some (v, rest) := by
  obtain ⟨c, cs, begins, -, -⟩ := exists_chars v plain
  obtain ⟨fuel, rfl⟩ : ∃ k, fuel = k + 1 := ⟨fuel - 1, by rw [begins] at h; simp at h; omega⟩
  match v with
  | .null => rfl
  | .boolean true => rfl
  | .boolean false => rfl
  | .number (.integer n) => exact value?_int n fuel stops
  | .string (some s) =>
    show value? (fuel + 1) (quoted s ++ rest) = _
    rw [quoted_append, value?, skipBlanks_cons (by decide)]
    simp only
    rw [literal?_quoted]
    rfl
  | .array [] => rfl
  | .array (v :: items) =>
    rw [Value.isPlain] at plain
    have read := items?_chars (v :: items) (List.cons_ne_nil _ _) plain fuel rest
      (by simp [Value.chars] at h; omega)
    obtain ⟨c, cs, begins, blank, other⟩ := exists_itemChars (List.cons_ne_nil v items) plain
    rw [begins] at read
    simp only [Value.chars, begins, List.cons_append, List.append_assoc, List.nil_append] at read ⊢
    rw [value?, skipBlanks_cons (by decide)]
    simp [skipBlanks_cons blank, other, read]
  | .object [] => rfl
  | .object (member :: members) =>
    rw [Value.isPlain] at plain
    have read := members?_chars (member :: members) (List.cons_ne_nil _ _) plain fuel
      rest (by simp [Value.chars] at h; omega)
    obtain ⟨cs, begins⟩ := exists_memberChars (List.cons_ne_nil member members)
    rw [begins] at read
    simp only [Value.chars, begins, List.cons_append, List.append_assoc, List.nil_append] at read ⊢
    rw [value?, skipBlanks_cons (by decide)]
    simp [skipBlanks_cons (c := '"') (by decide), read]

/-- Items are read back with the closing bracket. -/
theorem items?_chars (items : List Value) (nonempty : items ≠ []) (plain : itemsPlain items = true)
    (fuel : Nat) (rest : List Char) (h : (itemChars items).length < fuel) :
    items? fuel (itemChars items ++ ']' :: rest) = some (items, rest) := by
  obtain ⟨fuel, rfl⟩ : ∃ k, fuel = k + 1 := ⟨fuel - 1, by omega⟩
  match items with
  | [v] =>
    rw [itemsPlain, Bool.and_eq_true] at plain
    have read := value?_chars v plain.1 fuel (']' :: rest)
      (by simp [itemChars] at h; omega) (stops_of_not (by decide) rest)
    rw [itemChars, items?, read]
    simp [skipBlanks_cons (c := ']') (by decide)]
  | v :: w :: more =>
    rw [itemsPlain, Bool.and_eq_true] at plain
    have read := value?_chars v plain.1 fuel (',' :: (itemChars (w :: more) ++ ']' :: rest))
      (by simp [itemChars] at h; omega) (stops_of_not (by decide) _)
    have others := items?_chars (w :: more) (List.cons_ne_nil _ _) plain.2 fuel rest
      (by simp [itemChars] at h ⊢; omega)
    rw [itemChars, List.append_assoc, List.cons_append, items?, read]
    · simp [skipBlanks_cons (c := ',') (by decide), others]
    · simp

/-- Members are read back with the closing brace. -/
theorem members?_chars (members : List (Literal × Value)) (nonempty : members ≠ [])
    (plain : membersPlain members = true) (fuel : Nat) (rest : List Char)
    (h : (memberChars members).length < fuel) :
    members? fuel (memberChars members ++ '}' :: rest) = some (members, rest) := by
  obtain ⟨fuel, rfl⟩ : ∃ k, fuel = k + 1 := ⟨fuel - 1, by omega⟩
  match members with
  | [(none, v)] => cases plain
  | (none, v) :: member :: more => cases plain
  | [(some s, v)] =>
    rw [membersPlain, Bool.and_eq_true, Bool.and_eq_true] at plain
    obtain ⟨⟨-, one⟩, -⟩ := plain
    have read := value?_chars v one fuel ('}' :: rest)
      (by simp [memberChars] at h; omega) (stops_of_not (by decide) rest)
    rw [memberChars, Option.getD_some, List.append_assoc, quoted_append, members?,
      skipBlanks_cons (by decide)]
    simp only
    rw [List.cons_append, literal?_quoted]
    simp [skipBlanks_cons (c := ':') (by decide), skipBlanks_cons (c := '}') (by decide), read]
  | (some s, v) :: member :: more =>
    rw [membersPlain, Bool.and_eq_true, Bool.and_eq_true] at plain
    obtain ⟨⟨-, one⟩, others⟩ := plain
    have read := value?_chars v one fuel (',' :: (memberChars (member :: more) ++ '}' :: rest))
      (by simp [memberChars] at h; omega) (stops_of_not (by decide) _)
    have others := members?_chars (member :: more) (List.cons_ne_nil _ _) others fuel rest
      (by simp [memberChars] at h ⊢; omega)
    rw [memberChars, Option.getD_some, List.append_assoc, List.append_assoc, quoted_append,
      members?, skipBlanks_cons (by decide)]
    · simp only
      rw [List.cons_append, literal?_quoted]
      simp [skipBlanks_cons (c := ':') (by decide), skipBlanks_cons (c := ',') (by decide), read,
        others]
    · simp

end

/-- A plain value is read back from its compact form. -/
theorem parse?_render {v : Value} (plain : v.isPlain = true) : parse? v.render = some v := by
  have read := value?_chars v plain (v.chars.length + 1) [] (Nat.le_succ _)
    (by simp [Stops])
  rw [List.append_nil] at read
  rw [parse?, Value.render, String.toList_ofList, read]
  rfl

end ProxyMeter.Json
