import ProxyMeter.Proofs.Text.ByteOrder
import ProxyMeter.Text.Percent

/-!
# Texts that percent decoding leaves alone

Decoding makes bytes fewer wherever a percent sign stands before two hexadecimal digits, and changes
nothing where none does. The digits are ASCII, so they stand in the bytes of a text exactly where
they stand in the text.
-/

namespace ProxyMeter.Text

/-- Whether two hexadecimal digits stand at the front. -/
def digitsAhead : List Char → Bool
  | a :: b :: _ => (hexValue? a).isSome && (hexValue? b).isSome
  | _ => false

/-- Whether a percent sign stands before two hexadecimal digits anywhere. -/
def hasEscape : List Char → Bool
  | [] => false
  | c :: rest => (c = '%' && digitsAhead rest) || hasEscape rest

/-- Whether two bytes that are hexadecimal digits stand at the front. -/
def bytesAhead : List UInt8 → Bool
  | a :: b :: _ => (hexByte? a).isSome && (hexByte? b).isSome
  | _ => false

/-! ### Bytes -/

theorem percentDecoded_cons_of_ne {b : UInt8} (other : b ≠ 0x25) (bs : List UInt8) :
    percentDecoded (b :: bs) = b :: percentDecoded bs := by
  match bs with
  | [] => rfl
  | [_] => rfl
  | _ :: _ :: _ => rw [percentDecoded, if_neg other]

/-- Bytes without a percent sign stay. -/
theorem percentDecoded_append {xs : List UInt8} (others : 0x25 ∉ xs) (bs : List UInt8) :
    percentDecoded (xs ++ bs) = xs ++ percentDecoded bs := by
  induction xs with
  | nil => rfl
  | cons x xs ih =>
    rw [List.mem_cons, not_or] at others
    rw [List.cons_append, percentDecoded_cons_of_ne (Ne.symm others.1), ih others.2]
    rfl

/-- A percent sign without digits after it stays. -/
theorem percentDecoded_sign {bs : List UInt8} (alone : bytesAhead bs = false) :
    percentDecoded (0x25 :: bs) = 0x25 :: percentDecoded bs := by
  match bs with
  | [] => rfl
  | [_] => rfl
  | a :: b :: rest =>
    rw [percentDecoded, if_pos rfl]
    split
    · next ha hb => simp [bytesAhead, ha, hb] at alone
    · rfl

/-- Decoding does not make bytes more. -/
theorem length_percentDecoded_le (bs : List UInt8) : (percentDecoded bs).length ≤ bs.length := by
  fun_induction percentDecoded bs with
  | case1 => simp only [List.length_cons] at *; omega
  | case2 => simp only [List.length_cons] at *; omega
  | case3 => simp only [List.length_cons] at *; omega
  | case4 => rfl

/-- It makes them fewer where digits stand after a percent sign. -/
theorem percentDecoded_sign_ne {bs : List UInt8} (ahead : bytesAhead bs = true) :
    percentDecoded (0x25 :: bs) ≠ 0x25 :: bs := by
  match bs with
  | a :: b :: rest =>
    simp only [bytesAhead, Bool.and_eq_true, Option.isSome_iff_exists] at ahead
    obtain ⟨⟨x, hx⟩, ⟨y, hy⟩⟩ := ahead
    intro same
    rw [percentDecoded, if_pos rfl, hx, hy] at same
    have fewer := length_percentDecoded_le rest
    have lengths := congrArg List.length same
    simp only [List.length_cons] at lengths
    omega

/-- Something is left of anything. -/
theorem percentDecoded_ne_nil {bs : List UInt8} (some : bs ≠ []) : percentDecoded bs ≠ [] := by
  fun_cases percentDecoded bs with
  | case4 => exact some
  | _ => simp

/-! ### Characters -/

/-- Hexadecimal digits are ASCII. -/
theorem toNat_le_of_hexValue? {c : Char} (digit : (hexValue? c).isSome = true) : c.toNat ≤ 127 := by
  have upTo {last : Char} (ascii : last.toNat ≤ 127) (le : c ≤ last) : c.toNat ≤ 127 :=
    le_trans (show c.toNat ≤ last.toNat from le) ascii
  unfold hexValue? at digit
  split at digit
  · next range => exact upTo (by decide) range.2
  split at digit
  · next range => exact upTo (by decide) range.2
  split at digit
  · next range => exact upTo (by decide) range.2
  · cases digit

/-- A byte is a digit as the character with its number is one. -/
theorem isSome_hexByte? (b : UInt8) :
    (hexByte? b).isSome = (hexValue? (Char.ofNat b.toNat)).isSome := Option.isSome_map ..

/-- A byte that is not ASCII is no digit. -/
theorem hexByte?_of_lt {b : UInt8} (large : 127 < b.toNat) : (hexByte? b).isSome = false := by
  have valid : b.toNat.isValidChar := .inl (b.toNat_lt.trans (by decide))
  have number : (Char.ofNat b.toNat).toNat = b.toNat := by
    rw [Char.ofNat, dif_pos valid]
    rfl
  rw [isSome_hexByte?, Bool.eq_false_iff]
  intro digit
  have small := toNat_le_of_hexValue? digit
  omega

/-- A character is one byte with its number, or it is not ASCII and neither are its bytes. -/
theorem utf8EncodeChar_cases (c : Char) :
    (∃ b, String.utf8EncodeChar c = [b] ∧ b.toNat = c.toNat) ∨
      (127 < c.toNat ∧ String.utf8EncodeChar c ≠ [] ∧
        ∀ b ∈ String.utf8EncodeChar c, 127 < b.toNat) := by
  have digits (k n : Nat) : ∀ b ∈ trail k n, 127 < b.toNat := by
    induction k with
    | zero => simp [trail]
    | succ k ih =>
      rw [trail, List.forall_mem_cons, UInt8.toNat_ofNat']
      exact ⟨by omega, ih⟩
  obtain ⟨k, spans, written⟩ := exists_form c
  rw [written]
  have lead {k n : Nat} (low : 127 < n / 64 ^ k + mark k) (high : n / 64 ^ k + mark k < 256) :
      form k n ≠ [] ∧ ∀ b ∈ form k n, 127 < b.toNat := by
    rw [form, List.forall_mem_cons, UInt8.toNat_ofNat', Nat.mod_eq_of_lt high]
    exact ⟨List.cons_ne_nil _ _, low, digits k n⟩
  cases spans with
  | one most =>
    left
    exact ⟨.ofNat c.toNat, by simp [form, trail, mark], Nat.mod_eq_of_lt (by omega)⟩
  | two least most =>
    right
    exact ⟨least, lead (by simp only [mark]; omega) (by simp only [mark]; omega)⟩
  | three least most =>
    right
    exact ⟨by omega, lead (by simp only [mark]; omega) (by simp only [mark]; omega)⟩
  | four least most =>
    right
    exact ⟨by omega, lead (by simp only [mark]; omega) (by simp only [mark]; omega)⟩

/-- The first byte of a character is a digit as the character is, and is then its only byte. -/
theorem exists_utf8EncodeChar_eq_cons (c : Char) : ∃ first more,
    String.utf8EncodeChar c = first :: more ∧
      (hexByte? first).isSome = (hexValue? c).isSome ∧
      ((hexValue? c).isSome = true → more = []) := by
  obtain ⟨b, written, number⟩ | ⟨large, some, bytes⟩ := utf8EncodeChar_cases c
  · refine ⟨b, [], written, ?_, fun _ => rfl⟩
    rw [isSome_hexByte?, number, Char.ofNat_toNat]
  · have other : (hexValue? c).isSome = false := by
      rw [Bool.eq_false_iff]
      intro digit
      have small := toNat_le_of_hexValue? digit
      omega
    obtain ⟨first, more, written⟩ := List.exists_cons_of_ne_nil some
    rw [written, List.forall_mem_cons] at bytes
    refine ⟨first, more, written, ?_, ?_⟩
    · rw [other, hexByte?_of_lt bytes.1]
    · simp [other]

/-- Digits stand at the front of the bytes of a text as they do at the front of the text. -/
theorem bytesAhead_flatMap (cs : List Char) :
    bytesAhead (cs.flatMap String.utf8EncodeChar) = digitsAhead cs := by
  match cs with
  | [] => rfl
  | [a] =>
    obtain ⟨x, more, written, digit, alone⟩ := exists_utf8EncodeChar_eq_cons a
    rw [List.flatMap_cons, List.flatMap_nil, List.append_nil, written]
    by_cases ha : (hexValue? a).isSome = true
    · rw [alone ha]
      rfl
    · cases more with
      | nil => rfl
      | cons y more => simp [bytesAhead, digitsAhead, digit, ha]
  | a :: b :: rest =>
    obtain ⟨x, more, written, digit, alone⟩ := exists_utf8EncodeChar_eq_cons a
    obtain ⟨y, more', written', digit', -⟩ := exists_utf8EncodeChar_eq_cons b
    rw [List.flatMap_cons, List.flatMap_cons, written, written']
    by_cases ha : (hexValue? a).isSome = true
    · rw [alone ha]
      simp [bytesAhead, digitsAhead, digit, digit']
    · have none : (hexByte? x).isSome = false := by simpa [digit] using ha
      have none' : (hexValue? a).isSome = false := by simpa using ha
      cases more <;> simp [bytesAhead, digitsAhead, none, none']

theorem percentDecoded_flatMap_eq_self_iff (cs : List Char) :
    percentDecoded (cs.flatMap String.utf8EncodeChar) = cs.flatMap String.utf8EncodeChar ↔
      hasEscape cs = false := by
  induction cs with
  | nil => simp [percentDecoded, hasEscape]
  | cons c rest ih =>
    rw [List.flatMap_cons]
    by_cases sign : c = '%'
    · subst sign
      change percentDecoded (0x25 :: rest.flatMap _) = 0x25 :: rest.flatMap _ ↔ _
      have same := bytesAhead_flatMap rest
      cases ahead : digitsAhead rest with
      | true => simp [hasEscape, ahead, percentDecoded_sign_ne (same.trans ahead)]
      | false =>
        rw [percentDecoded_sign (same.trans ahead), List.cons_inj_right, ih]
        simp [hasEscape, ahead]
    · have others : 0x25 ∉ String.utf8EncodeChar c := by
        intro member
        obtain ⟨b, written, number⟩ | ⟨-, -, bytes⟩ := utf8EncodeChar_cases c
        · rw [written, List.mem_singleton] at member
          rw [← member] at number
          exact sign (Char.toNat_inj.mp number.symm)
        · exact absurd (bytes _ member) (by decide)
      rw [percentDecoded_append others, List.append_cancel_left_eq, ih]
      simp [hasEscape, sign]

/-- Decoding leaves the bytes of a text alone exactly if no percent sign in the text stands before
two hexadecimal digits. -/
theorem percentDecoded_utf8_eq_self_iff (s : String) :
    percentDecoded (utf8 s) = utf8 s ↔ hasEscape s.toList = false := by
  rw [utf8_eq]
  exact percentDecoded_flatMap_eq_self_iff s.toList

end ProxyMeter.Text
