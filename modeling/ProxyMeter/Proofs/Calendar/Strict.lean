import Mathlib.Data.Bool.AllAny
import ProxyMeter.Proofs.Calendar.Spelling
import ProxyMeter.Proofs.Text.ByteOrder

/-!
# Spellings that are read strictly

The strict reader goes over the bytes of a text. A spelling is in ASCII, so its bytes are those of
its characters, and each of its numbers is read from the digits that it was written in. So every
spelling is taken for the instant that it tells (`parse_text`).
-/

namespace ProxyMeter.Calendar

open Text

/-! ### Bytes -/

/-- The byte of an ASCII character. -/
def byte (c : Char) : UInt8 := UInt8.ofNat c.toNat

/-- Whether all characters are ASCII. -/
def IsAscii (cs : List Char) : Prop := ∀ c ∈ cs, c.toNat < 128

theorem isAscii_append {cs ds : List Char} : IsAscii (cs ++ ds) ↔ IsAscii cs ∧ IsAscii ds :=
  List.forall_mem_append

theorem isAscii_cons {c : Char} {cs : List Char} :
    IsAscii (c :: cs) ↔ c.toNat < 128 ∧ IsAscii cs := List.forall_mem_cons

theorem isAscii_of_isDigit {cs : List Char} (digit : ∀ c ∈ cs, c.isDigit = true) :
    IsAscii cs := by
  intro c member
  have within := digit c member
  simp only [Char.isDigit, Bool.and_eq_true, decide_eq_true_eq] at within
  have below : c.toNat ≤ 57 := within.2
  omega

theorem isAscii_pair {n : Nat} (h : n < 100) : IsAscii (pair n) := by
  have digit : ∀ d < 10, d.digitChar.toNat < 128 := by decide
  exact isAscii_cons.mpr ⟨digit _ (by omega), isAscii_cons.mpr ⟨digit _ (by omega), nofun⟩⟩

/-- The bytes of a text in ASCII. -/
theorem utf8_eq_map {s : String} (ascii : IsAscii s.toList) : utf8 s = s.toList.map byte := by
  have single {cs : List Char} (ascii : IsAscii cs) :
      cs.flatMap String.utf8EncodeChar = cs.map byte := by
    induction cs with
    | nil => rfl
    | cons c cs ih =>
      obtain ⟨first, rest⟩ := isAscii_cons.mp ascii
      have one : String.utf8EncodeChar c = [byte c] := by
        have low : c.toNat ≤ 127 := Nat.le_of_lt_succ first
        simp [String.utf8EncodeChar, low, byte]
      rw [List.flatMap_cons, one, ih rest]
      rfl
  rw [utf8_eq, single ascii]

namespace Rfc3339

/-! ### Numbers, fractions and zones -/

theorem digit_byte : ∀ d < 10, digit (byte d.digitChar) = .ok d := by decide

theorem twoDigits_pair {n : Nat} (h : n < 100) :
    twoDigits (byte (n / 10).digitChar) (byte (n % 10).digitChar) = .ok n := by
  rw [twoDigits, digit_byte _ (by omega), digit_byte _ (by omega)]
  show Except.ok _ = _
  rw [Nat.div_add_mod']

theorem toNat_byte {c : Char} (digit : c.isDigit = true) : (byte c).toNat = c.toNat := by
  simp only [Char.isDigit, Bool.and_eq_true, decide_eq_true_eq] at digit
  have below : c.toNat ≤ 57 := digit.2
  exact Nat.mod_eq_of_lt (by omega)

theorem isDigit_byte {c : Char} (digit : c.isDigit = true) : isDigit (byte c) = true := by
  rw [isDigit, toNat_byte digit, Bool.and_eq_true, decide_eq_true_eq, decide_eq_true_eq]
  simp only [Char.isDigit, Bool.and_eq_true, decide_eq_true_eq] at digit
  exact digit

/-- The first nine digits of a fraction tell the nanoseconds, if the digits are enough. -/
theorem nanosOf_fractionDigits {digits nanos : Nat} (any : digits ≠ 0)
    (bound : nanos < Instant.second) (enough : 10 ^ (9 - digits) ∣ nanos) :
    nanosOf ((fractionDigits digits nanos).map byte) = nanos := by
  have value {cs : List Char} (digit : ∀ c ∈ cs, c.isDigit = true) (acc : Nat) :
      (cs.map byte).foldl (fun acc b => acc * 10 + (b.toNat - 0x30)) acc =
        Nat.ofDigitChars 10 cs acc := by
    induction cs generalizing acc with
    | nil => rfl
    | cons c cs ih =>
      obtain ⟨first, rest⟩ := List.forall_mem_cons.mp digit
      rw [List.map_cons, List.foldl_cons, ih rest, toNat_byte first, Nat.ofDigitChars_cons,
        Nat.mul_comm]
      rfl
  have places : min digits 9 + (9 - digits) = 9 := by omega
  have length : (padded (min digits 9) (nanos / 10 ^ (9 - digits))).toList.length =
      min digits 9 := by
    rw [String.length_toList]
    apply length_padded (by omega)
    apply Nat.div_lt_of_lt_mul
    rw [← Nat.pow_add, Nat.add_comm, places]
    exact bound
  have nine : (fractionDigits digits nanos).take 9 =
      (padded (min digits 9) (nanos / 10 ^ (9 - digits))).toList := by
    rw [fractionDigits]
    by_cases few : digits ≤ 9
    · rw [Nat.sub_eq_zero_of_le few, List.replicate_zero, List.append_nil,
        List.take_of_length_le (by omega)]
    · exact List.take_left' (by omega)
  rw [nanosOf, ← List.map_take, nine, value fun _ => isDigit_of_mem_padded, ofDigitChars_padded,
    List.length_map, length, Nat.pow_eq, show 9 - min digits 9 = 9 - digits by omega,
    Nat.div_mul_cancel enough]

/-- The fraction of a spelling is read up to the zone. -/
theorem fraction_fractionOf {digits nanos : Nat} (bound : nanos < Instant.second)
    (enough : 10 ^ (9 - digits) ∣ nanos) {c : Char} (first : c ∈ ['Z', '+', '-']) (cs : List Char) :
    fraction (((fractionOf digits nanos).toList ++ c :: cs).map byte) =
      .ok (nanos, (c :: cs).map byte) := by
  have ends : ∀ c ∈ ['Z', '+', '-'], byte c ≠ 0x2E ∧ isDigit (byte c) = false :=
    List.all_iff_forall_prop.mp (by decide)
  obtain ⟨noPoint, noDigit⟩ := ends c first
  by_cases none : digits = 0
  · have zero : nanos = 0 := Nat.eq_zero_of_dvd_of_lt enough (by rw [none]; exact bound)
    rw [none, zero]
    simp [fractionOf, fraction, noPoint]
  · have digit : ∀ b ∈ (fractionDigits digits nanos).map byte, isDigit b = true := by
      intro b member
      obtain ⟨d, inside, rfl⟩ := List.mem_map.mp member
      exact isDigit_byte (isDigit_of_mem_fractionDigits inside)
    rw [toList_fractionOf none, List.cons_append, List.map_cons, List.map_append]
    show fraction (0x2E :: _) = _
    rw [fraction]
    simp only [List.takeWhile_append_of_pos digit, List.map_cons]
    simp [noDigit, fractionDigits_ne_nil, nanosOf_fractionDigits none bound enough]

theorem offsetMinutes_pair {n : Nat} (h : n < 60) :
    offsetMinutes (byte (n / 10).digitChar) (byte (n % 10).digitChar) = .ok n := by
  have digit : ∀ d < 10, isDigit (byte d.digitChar) = true := by decide
  have tens : ∀ d < 6, ¬ 0x36 ≤ (byte d.digitChar).toNat := by decide
  rw [offsetMinutes, if_pos ⟨digit _ (by omega), digit _ (by omega)⟩, if_neg (tens _ (by omega)),
    twoDigits_pair (by omega)]

/-- An offset in digits is read to its end. -/
theorem offset_pair {hours minutes : Nat} (h : hours < 100) (m : minutes < 60) (behind : Prop)
    [Decidable behind] :
    offset colon (((if behind then '-' else '+') :: (pair hours ++ ':' :: pair minutes)).map byte) =
      .ok ((if behind then -1 else 1) * (hours * 3600 + minutes * 60 : Nat), []) := by
  have separator (rest : List UInt8) : colon (byte ':' :: rest) = .ok rest := rfl
  simp only [pair, List.cons_append, List.nil_append, List.map_cons, List.map_nil]
  split_ifs
  · rw [show byte '-' = 0x2D from rfl]
    simp [offset, offsetSign, twoDigits_pair h, offsetMinutes_pair m, separator, bind, Except.bind,
      pure, Except.pure]
  · rw [show byte '+' = 0x2B from rfl]
    simp [offset, offsetSign, twoDigits_pair h, offsetMinutes_pair m, separator, bind, Except.bind,
      pure, Except.pure]

/-- The zone of a spelling is read to its end. -/
theorem offset_zoneOf {shift : Int} (bounds : -largestOffset ≤ shift ∧ shift ≤ largestOffset)
    (minutes : shift % 60 = 0) {isZulu : Bool} (letter : isZulu = true → shift = 0) :
    offset colon ((zoneOf isZulu shift).toList.map byte) = .ok (shift, []) := by
  rw [toList_zoneOf bounds]
  rw [largestOffset] at bounds
  cases isZulu with
  | true =>
    rw [letter rfl]
    rfl
  | false =>
    simp only [Bool.false_eq_true, if_false]
    rw [offset_pair (by omega) (by omega)]
    congr 2
    split_ifs <;> omega

/-! ### Whole texts -/

section

variable {s : Spelling}

/-- The year of a spelling in two times two digits. -/
theorem toList_yearText {year : Int} (four : 0 ≤ year ∧ year ≤ 9999) :
    (Instant.yearText year).toList = pair (year.toNat / 100) ++ pair (year.toNat % 100) := by
  rw [Instant.yearText, if_pos four, toList_padded_four (by omega)]

/-- A spelling is in ASCII. -/
theorem isAscii_text (valid : s.IsValid) : IsAscii s.text.toList := by
  have year := valid.parts.year
  have time := valid.parts.time
  have date := Date.isValid_iff.mp valid.parts.date
  have days := monthLength_le s.parts.date.year s.parts.date.month
  have bounds := valid.parts.offset
  have fraction : IsAscii (fractionOf s.digits s.parts.nanos).toList := by
    by_cases none : s.digits = 0
    · simp [fractionOf, none, IsAscii]
    · rw [toList_fractionOf none, isAscii_cons]
      exact ⟨by decide, isAscii_of_isDigit fun c => isDigit_of_mem_fractionDigits⟩
  have zone : IsAscii (zoneOf s.isZulu s.parts.offset).toList := by
    rw [toList_zoneOf bounds]
    rw [largestOffset] at bounds
    split_ifs
    · simp [IsAscii]
    · simp (disch := omega) [isAscii_append, isAscii_cons, isAscii_pair]
    · simp (disch := omega) [isAscii_append, isAscii_cons, isAscii_pair]
  rw [toList_text valid.parts.date time, toList_yearText year]
  simp (disch := omega) [Parts.fields, isAscii_append, isAscii_cons, isAscii_pair, fraction, zone]

/-- The date and the time are read, and then the fraction and the zone. -/
theorem read_pairs {c y m d h i s : Nat} (front : c < 100 ∧ y < 100 ∧ m < 100 ∧ d < 100)
    (date : Date.isValid ⟨(c * 100 + y : Nat), m, d⟩ = true)
    (time : h < 24 ∧ i < 60 ∧ s ≤ 60) (rest : List Char) :
    read ((pair c ++ (pair y ++ '-' :: (pair m ++ '-' :: (pair d ++ 'T' ::
      (pair h ++ ':' :: (pair i ++ ':' :: (pair s ++ rest))))))).map byte) = (do
        let (nanos, rest) ← fraction (rest.map byte)
        let (shift, rest) ← offset colon rest
        require rest.isEmpty .trailing
        require (-largestOffset ≤ shift && shift ≤ largestOffset) .outOfRange
        return instantOf ⟨(c * 100 + y : Nat), m, d⟩ h i s nanos shift) := by
  have mark : (byte '-' = 0x2D ∧ byte ':' = 0x3A) ∧ byte 'T' = 0x54 := by decide
  have inTime : (decide (h < 24) && decide (i < 60) && decide (s ≤ 60)) = true := by simp [time]
  simp only [pair, List.cons_append, List.nil_append, List.map_cons, read,
    twoDigits_pair front.1, twoDigits_pair front.2.1, twoDigits_pair front.2.2.1,
    twoDigits_pair front.2.2.2, twoDigits_pair (n := h) (by omega),
    twoDigits_pair (n := i) (by omega), twoDigits_pair (n := s) (by omega), mark]
  simp only [require, date, inTime, bind, Except.bind, decide_true, Bool.true_or, if_true]

/-- The strict reader takes a spelling for the instant that it tells. -/
theorem parse_text (valid : s.IsValid) : parse s.text = .ok s.parts.instant := by
  have ascii := isAscii_text valid
  obtain ⟨⟨date, year, time, nanos, minutes, bounds⟩, digits, letter⟩ := valid
  have fields := Date.isValid_iff.mp date
  have days := monthLength_le s.parts.date.year s.parts.date.month
  have whole : ((s.parts.date.year.toNat / 100 * 100 + s.parts.date.year.toNat % 100 : Nat) : Int) =
      s.parts.date.year := by omega
  obtain ⟨c, cs, zone, first⟩ := exists_zoneOf bounds s.isZulu
  have fraction := fraction_fractionOf nanos digits first cs
  have shift := offset_zoneOf bounds minutes letter
  rw [zone] at shift
  have within : (decide (-largestOffset ≤ s.parts.offset) &&
      decide (s.parts.offset ≤ largestOffset)) = true := by simp [bounds]
  rw [parse, utf8_eq_map ascii, toList_text date time, toList_yearText year, List.append_assoc,
    Parts.fields, read_pairs (by omega) (by rw [whole]; exact date) time, zone, fraction]
  simp only [bind, Except.bind, shift, require, List.isEmpty_nil, within, if_true, whole]
  rfl

end

/-- The text of an instant in answers is read as the instant. -/
theorem parse_render {a : Instant} (clock : a.OnClock) (four : a.HasFourDigits) :
    parse a.render = .ok a := by
  rw [← text_spelling, parse_text (isValid_spelling clock four), instant_spelling clock]

end Rfc3339
end ProxyMeter.Calendar
