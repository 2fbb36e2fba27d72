import Mathlib.Data.String.Basic
import ProxyMeter.Text.Numeral

/-!
# The order of texts

Texts are compared character by character. Texts with fronts of one length are ordered by these
fronts first, and numerals filled to one width are ordered as the numbers that they stand for.
-/

namespace ProxyMeter.Text

private theorem list_append_lt_append_iff {a b c d : List Char} (h : a.length = b.length) :
    a ++ c < b ++ d ↔ a < b ∨ a = b ∧ c < d := by
  induction a generalizing b with
  | nil =>
    have hb : b = [] := List.length_eq_zero_iff.mp h.symm
    subst hb
    simp
  | cons x a ih =>
    cases b with
    | nil => simp at h
    | cons y b =>
      have hl : a.length = b.length := by simpa using h
      simp only [List.cons_append, List.cons_lt_cons_iff, ih hl, List.cons.injEq]
      by_cases hxy : x = y <;> simp [hxy]

/-- Where two fronts are of one length they decide, and what follows only if they are equal. -/
theorem append_lt_append_iff {s t s' t' : String} (h : s.length = t.length) :
    s ++ s' < t ++ t' ↔ s < t ∨ s = t ∧ s' < t' := by
  have hl : s.toList.length = t.toList.length := by
    rw [String.length_toList, String.length_toList, h]
  rw [String.lt_iff_toList_lt, String.toList_append, String.toList_append,
    list_append_lt_append_iff hl, String.toList_inj]
  rfl

/-- A digit more is a place more. -/
theorem padded_succ {width : Nat} (h : 0 < width) (n : Nat) :
    padded (width + 1) n = padded width (n / 10) ++ padded 1 (n % 10) := by
  have last : Nat.toDigits 10 (n % 10) = [(n % 10).digitChar] :=
    Nat.toDigits_of_lt_base (Nat.mod_lt n (by decide))
  apply String.toList_inj.mp
  simp only [padded, String.toList_append, String.toList_ofList, last]
  by_cases small : n < 10
  · have none : n / 10 = 0 := by omega
    have self : n % 10 = n := by omega
    rw [none, self, Nat.toDigits_of_lt_base small, Nat.toDigits_zero]
    obtain ⟨k, rfl⟩ : ∃ k, width = k + 1 := ⟨width - 1, by omega⟩
    simp [List.replicate_succ']
  · rw [Nat.toDigits_of_base_le (by decide) (by omega)]
    simp

/-- A numeral that fits its width fills it. -/
theorem length_padded {width n : Nat} (h : 0 < width) (fits : n < 10 ^ width) :
    (padded width n).length = width := by
  have digits : (Nat.toDigits 10 n).length ≤ width :=
    (Nat.length_toDigits_le_iff (by decide) h).mpr fits
  simp only [padded, String.length_ofList, List.length_append, List.length_replicate]
  omega

private theorem padded_one_lt {m n : Nat} (hn : n < 10) (h : m < n) : padded 1 m < padded 1 n := by
  have hm : m < 10 := by omega
  have digits : m.digitChar < n.digitChar := by
    show m.digitChar.toNat < n.digitChar.toNat
    rw [Nat.toNat_digitChar_of_lt_ten hm, Nat.toNat_digitChar_of_lt_ten hn]
    omega
  rw [String.lt_iff_toList_lt]
  simp [padded, Nat.toDigits_of_lt_base hm, Nat.toDigits_of_lt_base hn, List.cons_lt_cons_iff,
    digits]

/-- Numerals of one width are ordered as their numbers. -/
theorem padded_lt_padded {width m n : Nat} (h : 0 < width) (fits : n < 10 ^ width) (less : m < n) :
    padded width m < padded width n := by
  induction width, h using Nat.le_induction generalizing m n with
  | base => exact padded_one_lt (by simpa using fits) less
  | succ width h ih =>
    have fits' : n / 10 < 10 ^ width := by
      rw [Nat.pow_succ] at fits
      omega
    have front {k : Nat} (hk : k ≤ n) : (padded width (k / 10)).length = width :=
      length_padded h (by omega)
    have same := (front less.le).trans (front n.le_refl).symm
    rw [padded_succ h, padded_succ h, append_lt_append_iff same]
    by_cases tens : m / 10 < n / 10
    · exact .inl (ih fits' tens)
    · refine .inr ⟨by rw [show m / 10 = n / 10 by omega], padded_one_lt (by omega) (by omega)⟩

/-- What follows equal fronts decides. -/
theorem append_lt_append_left (s : String) {s' t' : String} : s ++ s' < s ++ t' ↔ s' < t' := by
  rw [append_lt_append_iff rfl]
  constructor
  · rintro (h | ⟨-, h⟩)
    · exact absurd h (lt_irrefl s)
    · exact h
  · exact fun h => .inr ⟨rfl, h⟩

/-- The first number decides, and what follows it only if it is the same. -/
theorem padded_append_lt {width m n : Nat} {s t : String} (h : 0 < width) (hm : m < 10 ^ width)
    (hn : n < 10 ^ width) (less : m < n ∨ m = n ∧ s < t) :
    padded width m ++ s < padded width n ++ t := by
  rw [append_lt_append_iff ((length_padded h hm).trans (length_padded h hn).symm)]
  obtain first | ⟨rfl, second⟩ := less
  · exact .inl (padded_lt_padded h hn first)
  · exact .inr ⟨rfl, second⟩

/-- A text that begins with less than a digit comes before every numeral. -/
theorem lt_padded_append {s : String} {c : Char} {cs : List Char} (begins : s.toList = c :: cs)
    (less : c < '0') (width n : Nat) (t : String) : s < padded width n ++ t := by
  have digits : ∀ d ∈ (padded width n).toList, '0' ≤ d := by
    intro d hd
    simp only [padded, String.toList_ofList, List.mem_append] at hd
    obtain zero | digit := hd
    · rw [List.eq_of_mem_replicate zero]
    · have isDigit := Nat.isDigit_of_mem_toDigits (by decide) (by decide) digit
      simp only [Char.isDigit, Bool.and_eq_true, decide_eq_true_eq] at isDigit
      exact isDigit.1
  rw [String.lt_iff_toList_lt, String.toList_append, begins]
  cases text : (padded width n).toList with
  | nil => simp [padded] at text
  | cons d ds =>
    rw [List.cons_append, List.cons_lt_cons_iff]
    exact .inl (lt_of_lt_of_le less (digits d (by simp [text])))

/-- A numeral of two parts. -/
theorem padded_add {front back : Nat} (hf : 0 < front) (hb : 0 < back) (n : Nat) :
    padded (front + back) n = padded front (n / 10 ^ back) ++ padded back (n % 10 ^ back) := by
  induction back, hb using Nat.le_induction generalizing n with
  | base => exact padded_succ hf n
  | succ back hb ih =>
    have tens : n % 10 ^ (back + 1) / 10 = n / 10 % 10 ^ back := by
      rw [Nat.pow_succ, Nat.mul_comm, Nat.mod_mul_right_div_self]
    have ones : n % 10 ^ (back + 1) % 10 = n % 10 :=
      Nat.mod_mod_of_dvd n (Nat.dvd_mul_left 10 (10 ^ back))
    have hundreds : n / 10 / 10 ^ back = n / 10 ^ (back + 1) := by
      rw [Nat.div_div_eq_div_mul, Nat.pow_succ, Nat.mul_comm 10]
    rw [← Nat.add_assoc, padded_succ (by omega), ih, padded_succ hb, tens, ones, hundreds,
      String.append_assoc]

end ProxyMeter.Text
