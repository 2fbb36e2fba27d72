import Mathlib.Algebra.Order.Group.Nat
import Mathlib.Data.String.Basic
import ProxyMeter.Proofs.Text.Utf8

/-!
# The order of bytes

Texts that are compared byte by byte are ordered as texts that are compared character by character.
A character is written in a leading byte, which is greater for a longer form, and some more bytes
that are digits of six bits.
-/

namespace ProxyMeter.Text

/-! ### Characters -/

/-- What is added to the leading byte where `k` bytes follow. -/
def mark : Nat → Nat
  | 0 => 0
  | 1 => 192
  | 2 => 224
  | _ => 240

/-- The last `k` digits of six bits, each in a byte. -/
def trail : Nat → Nat → List UInt8
  | 0, _ => []
  | k + 1, n => UInt8.ofNat (n / 64 ^ k % 64 + 128) :: trail k n

/-- A number in a leading byte and `k` more. -/
def form (k n : Nat) : List UInt8 := UInt8.ofNat (n / 64 ^ k + mark k) :: trail k n

/-- The numbers that are written with `k` bytes after the leading one. -/
inductive Spans : Nat → Nat → Prop
  | one {n : Nat} (most : n ≤ 127) : Spans 0 n
  | two {n : Nat} (least : 127 < n) (most : n ≤ 2047) : Spans 1 n
  | three {n : Nat} (least : 2047 < n) (most : n ≤ 65535) : Spans 2 n
  | four {n : Nat} (least : 65535 < n) (most : n < 2097152) : Spans 3 n

/-- Every character is written in one of these forms. -/
theorem exists_form (c : Char) :
    ∃ k, Spans k c.toNat ∧ String.utf8EncodeChar c = form k c.toNat := by
  have valid : c.toNat < 1114112 := by
    obtain low | ⟨-, high⟩ := c.valid
    · exact low.trans (by decide)
    · exact high
  have number : c.val.toNat = c.toNat := rfl
  unfold String.utf8EncodeChar
  rw [number]
  dsimp only
  split
  · next most => exact ⟨0, .one most, by simp [form, trail, mark]⟩
  split
  · next least most =>
    refine ⟨1, .two (by omega) most, ?_⟩
    rw [Nat.mod_eq_of_lt (by omega)]
    simp [form, trail, mark]
  split
  · next least most =>
    refine ⟨2, .three (by omega) most, ?_⟩
    rw [Nat.mod_eq_of_lt (a := c.toNat / 4096) (by omega)]
    simp [form, trail, mark]
  · next least =>
    refine ⟨3, .four (by omega) (by omega), ?_⟩
    rw [Nat.mod_eq_of_lt (a := c.toNat / 262144) (by omega)]
    simp [form, trail, mark]

/-- Bytes that come before others whatever follows the ones and the others. -/
def Decides (xs ys : List UInt8) : Prop := ∀ us vs, xs ++ us < ys ++ vs

theorem decides_of_lt {m n : Nat} (less : m < n) (byte : n < 256) (xs ys : List UInt8) :
    Decides (UInt8.ofNat m :: xs) (UInt8.ofNat n :: ys) := by
  intro us vs
  rw [List.cons_append, List.cons_append, List.cons_lt_cons_iff, UInt8.lt_iff_toNat_lt]
  left
  rw [UInt8.toNat_ofNat', UInt8.toNat_ofNat', Nat.mod_eq_of_lt byte,
    Nat.mod_eq_of_lt (less.trans byte)]
  exact less

theorem Decides.cons {xs ys : List UInt8} (h : Decides xs ys) (b : UInt8) :
    Decides (b :: xs) (b :: ys) := by
  intro us vs
  rw [List.cons_append, List.cons_append, List.cons_lt_cons_iff]
  exact .inr ⟨rfl, h us vs⟩

/-- The digits of a lesser number decide. -/
theorem decides_trail {k m n : Nat} (less : m % 64 ^ k < n % 64 ^ k) :
    Decides (trail k m) (trail k n) := by
  induction k with
  | zero => simp [Nat.mod_one] at less
  | succ k ih =>
    rw [Nat.mod_pow_succ, Nat.mod_pow_succ] at less
    have digit := Nat.mod_lt (n / 64 ^ k) (show 64 > 0 by decide)
    obtain first | same | first := Nat.lt_trichotomy (m / 64 ^ k % 64) (n / 64 ^ k % 64)
    · exact decides_of_lt (by omega) (by omega) _ _
    · rw [same] at less
      rw [trail, trail, same]
      exact (ih (Nat.lt_of_add_lt_add_right less)).cons _
    · have more := Nat.mul_le_mul_left (64 ^ k) (Nat.succ_le_of_lt first)
      have rest := Nat.mod_lt n (Nat.pow_pos (n := k) (show 0 < 64 by decide))
      rw [Nat.mul_succ] at more
      exact absurd less (by omega)

/-- The form of a lesser number decides. -/
theorem decides_form {j k m n : Nat} (hm : Spans j m) (hn : Spans k n) (less : m < n) :
    Decides (form j m) (form k n) := by
  by_cases same : j = k
  · subst same
    have byte : n / 64 ^ j + mark j < 256 := by
      cases hn <;> simp only [mark] <;> omega
    obtain first | first := Nat.lt_or_eq_of_le (Nat.div_le_div_right (c := 64 ^ j) less.le)
    · exact decides_of_lt (by omega) byte _ _
    · have digits := Nat.div_add_mod m (64 ^ j)
      have digits' := Nat.div_add_mod n (64 ^ j)
      rw [form, form, first]
      rw [first] at digits
      exact (decides_trail (by omega)).cons _
  · have first : m / 64 ^ j + mark j < n / 64 ^ k + mark k ∧ n / 64 ^ k + mark k < 256 := by
      cases hm <;> cases hn <;> first | exact absurd rfl same | (simp only [mark]; omega)
    exact decides_of_lt first.1 first.2 _ _

/-- A lesser character is written in bytes that come before. -/
theorem decides_utf8EncodeChar {c d : Char} (less : c < d) :
    Decides (String.utf8EncodeChar c) (String.utf8EncodeChar d) := by
  obtain ⟨j, spans, hc⟩ := exists_form c
  obtain ⟨k, spans', hd⟩ := exists_form d
  rw [hc, hd]
  exact decides_form spans spans' less

/-! ### Texts -/

/-- The bytes of a text are those of its characters. -/
theorem utf8_eq (s : String) : utf8 s = s.toList.flatMap String.utf8EncodeChar := by
  apply List.toArray_inj
  rw [toArray_utf8, ← String.utf8Encode_toList, List.utf8Encode, List.data_toByteArray]

theorem flatMap_lt_flatMap {cs ds : List Char} (less : cs < ds) :
    cs.flatMap String.utf8EncodeChar < ds.flatMap String.utf8EncodeChar := by
  induction cs generalizing ds with
  | nil =>
    cases ds with
    | nil => exact absurd less (lt_irrefl _)
    | cons d ds =>
      obtain ⟨k, -, hd⟩ := exists_form d
      rw [List.flatMap_cons, hd]
      exact List.nil_lt_cons _ _
  | cons c cs ih =>
    cases ds with
    | nil => cases less
    | cons d ds =>
      rw [List.flatMap_cons, List.flatMap_cons]
      obtain first | ⟨rfl, rest⟩ := List.cons_lt_cons_iff.mp less
      · exact decides_utf8EncodeChar first _ _
      · exact List.append_left_lt (ih rest)

/-- Texts are ordered as their bytes. -/
theorem utf8_lt_iff {s t : String} : utf8 s < utf8 t ↔ s < t := by
  rw [String.lt_iff_toList_lt, utf8_eq, utf8_eq]
  refine ⟨fun less => ?_, flatMap_lt_flatMap⟩
  obtain before | same | after := lt_trichotomy s.toList t.toList
  · exact before
  · rw [same] at less
    exact absurd less (List.lt_irrefl _)
  · exact absurd less (List.lt_asymm (flatMap_lt_flatMap after))

end ProxyMeter.Text
