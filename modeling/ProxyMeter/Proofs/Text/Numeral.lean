import ProxyMeter.Text.Numeral

/-!
# Which texts are numerals

The bound on the value of a numeral is looked at after each digit. It is enough to know the value of
all digits. The digits that a number is written in have the number for their value, with zeros
before them or without.
-/

namespace ProxyMeter.Text

/-- Digits do not make a value smaller. -/
theorem le_of_digitsValue? {acc n : Nat} {cs : List Char} (h : digitsValue? acc cs = some n) :
    acc ≤ n := by
  induction cs generalizing acc with
  | nil =>
    cases h
    exact Nat.le_refl _
  | cons c cs ih =>
    obtain ⟨d, -, rest⟩ := Option.bind_eq_some_iff.mp h
    have := ih rest
    omega

/-- Digits are taken up to a bound if their value is not over it. -/
theorem digitsWithin_eq_ok_iff {bound acc n : Nat} {cs : List Char} (h : acc ≤ bound) :
    digitsWithin bound acc cs = .ok n ↔ digitsValue? acc cs = some n ∧ n ≤ bound := by
  induction cs generalizing acc with
  | nil =>
    simp only [digitsWithin, digitsValue?, Except.ok.injEq, Option.some.injEq]
    exact ⟨fun same => ⟨same, same ▸ h⟩, And.left⟩
  | cons c cs ih =>
    rw [digitsWithin, digitsValue?]
    cases digitValue? c with
    | none => simp
    | some d =>
      dsimp only [Option.bind_some]
      split
      · next small => exact ih small
      · next large =>
        refine ⟨nofun, fun ⟨value, small⟩ => ?_⟩
        have := le_of_digitsValue? value
        omega

/-- Digits are a numeral up to a bound if there are some and their value is not over it. -/
theorem natural?_eq_some_iff {n : Nat} {cs : List Char} :
    natural? cs = some n ↔ cs ≠ [] ∧ digitsValue? 0 cs = some n := by
  cases cs <;> simp [natural?]

/-- A text is digits with a value, with or without a plus sign before them. -/
def IsNumeral (s : String) (n : Nat) : Prop :=
  ∃ digits, (s.toList = digits ∨ s.toList = '+' :: digits) ∧ natural? digits = some n

/-- The numerals up to a bound are those whose value is not over it. -/
theorem boundedNumeral?_eq_some_iff {bound n : Nat} {s : String} :
    boundedNumeral? bound s = some n ↔ IsNumeral s n ∧ n ≤ bound := by
  have within {digits : List Char} (any : digits ≠ []) :
      (digitsWithin bound 0 digits).toOption = some n ↔
        natural? digits = some n ∧ n ≤ bound := by
    have ok (r : Except NumeralFault Nat) : r.toOption = some n ↔ r = .ok n := by
      cases r <;> simp [Except.toOption]
    rw [ok, digitsWithin_eq_ok_iff (Nat.zero_le _), natural?_eq_some_iff]
    simp [any]
  -- Neither nothing nor what begins with a sign is digits.
  have nothing : natural? [] = none := rfl
  have sign (rest : List Char) : natural? ('+' :: rest) = none := rfl
  rw [boundedNumeral?, numeral, IsNumeral]
  split
  · next empty => simp [empty, nothing, Except.toOption]
  · next alone => simp [alone, nothing, sign, Except.toOption]
  · next digits more signed =>
    rw [signed, within more]
    simp [sign]
  · next any _ unsigned =>
    rw [within any]
    constructor
    · rintro ⟨read, small⟩
      exact ⟨⟨_, .inl rfl, read⟩, small⟩
    · rintro ⟨⟨digits, rfl | signed, read⟩, small⟩
      · exact ⟨read, small⟩
      · exact absurd signed (unsigned digits)

/-- Digits have a value. -/
theorem digitsValue?_eq_some {cs : List Char} (digits : ∀ c ∈ cs, c.isDigit = true) (acc : Nat) :
    digitsValue? acc cs = some (Nat.ofDigitChars 10 cs acc) := by
  induction cs generalizing acc with
  | nil => rfl
  | cons c cs ih =>
    have digit : digitValue? c = some (c.toNat - '0'.toNat) := by
      have within := digits c (.head _)
      simp only [Char.isDigit, Bool.and_eq_true, decide_eq_true_eq] at within
      exact if_pos within
    rw [digitsValue?, digit, Option.bind_some, ih (fun d member => digits d (.tail _ member)),
      Nat.ofDigitChars_cons, Nat.mul_comm]

/-- The digits of a number tell the number. -/
theorem natural?_toDigits (n : Nat) : natural? (Nat.toDigits 10 n) = some n := by
  rw [natural?_eq_some_iff,
    digitsValue?_eq_some fun _ => Nat.isDigit_of_mem_toDigits (by decide) (by decide),
    Nat.ofDigitChars_toDigits (by decide) (by decide)]
  exact ⟨Nat.toDigits_ne_nil, rfl⟩

/-- The digits of a number that is not zero do not begin with zero. -/
theorem head?_toDigits_ne {n : Nat} (h : n ≠ 0) : (Nat.toDigits 10 n).head? ≠ some '0' := by
  induction n using Nat.strongRecOn with
  | _ n ih =>
    by_cases small : n < 10
    · rw [Nat.toDigits_of_lt_base small, List.head?_cons]
      have zero : ∀ d < 10, d.digitChar = '0' → d = 0 := by decide
      exact fun same => h (zero n small (Option.some.inj same))
    · rw [Nat.toDigits_of_base_le (by decide) (by omega),
        List.head?_append, Option.or_of_isSome (by simp)]
      exact ih (n / 10) (by omega) (by omega)

/-- A numeral has nothing but digits. -/
theorem isDigit_of_mem_padded {width n : Nat} {c : Char} (member : c ∈ (padded width n).toList) :
    c.isDigit = true := by
  simp only [padded, String.toList_ofList, List.mem_append] at member
  obtain zero | digit := member
  · rw [List.eq_of_mem_replicate zero]
    decide
  · exact Nat.isDigit_of_mem_toDigits (by decide) (by decide) digit

/-- Zeros before the digits of a number do not change it. -/
theorem ofDigitChars_padded (width n : Nat) :
    Nat.ofDigitChars 10 (padded width n).toList 0 = n := by
  have zeros (k : Nat) : Nat.ofDigitChars 10 (List.replicate k '0') 0 = 0 := by
    induction k with
    | zero => rfl
    | succ k ih => exact ih
  rw [padded, String.toList_ofList, Nat.ofDigitChars_append, zeros,
    Nat.ofDigitChars_toDigits (by decide) (by decide)]

/-- A numeral tells its number. -/
theorem natural?_padded (width n : Nat) : natural? (padded width n).toList = some n := by
  rw [natural?_eq_some_iff, digitsValue?_eq_some fun _ => isDigit_of_mem_padded,
    ofDigitChars_padded]
  refine ⟨?_, rfl⟩
  rw [padded, String.toList_ofList]
  exact List.append_ne_nil_of_right_ne_nil _ Nat.toDigits_ne_nil

/-- A number that is not negative is written in its digits. -/
theorem toList_toString_natCast (n : Nat) : (toString (n : Int)).toList = Nat.toDigits 10 n := by
  rw [Int.toString_eq_repr]
  exact Nat.toList_repr

/-- A negative number is written with a minus sign before the digits of its magnitude. -/
theorem toList_toString_negSucc (n : Nat) :
    (toString (Int.negSucc n)).toList = '-' :: Nat.toDigits 10 (n + 1) := by
  rw [Int.toString_eq_repr, Int.repr, String.toList_append, Nat.toList_repr]
  rfl

end ProxyMeter.Text
