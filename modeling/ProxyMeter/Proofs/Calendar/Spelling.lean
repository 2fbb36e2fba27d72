import ProxyMeter.Proofs.Calendar.Days
import ProxyMeter.Proofs.Calendar.Rfc3339
import ProxyMeter.Proofs.Text.Numeral
import ProxyMeter.Proofs.Text.Order

/-!
# How instants are spelled

An instant is told at any offset of whole minutes, in the date and the time of a clock there, with
any number of digits that its fraction needs and zeros after them. The text of an instant in answers
is one of its spellings, with the letter Z for the zone.
-/

namespace ProxyMeter.Calendar

open Text

/-! ### Characters -/

/-- The two digits of a number below a hundred. -/
def pair (n : Nat) : List Char := [(n / 10).digitChar, (n % 10).digitChar]

theorem toList_padded_two {n : Nat} (h : n < 100) : (padded 2 n).toList = pair n := by
  have one {d : Nat} (h : d < 10) : (padded 1 d).toList = [d.digitChar] := by
    simp [padded, Nat.toDigits_of_lt_base h]
  rw [padded_succ (by decide), String.toList_append, one (by omega), one (by omega)]
  rfl

theorem toList_padded_four {n : Nat} (h : n < 10000) :
    (padded 4 n).toList = pair (n / 100) ++ pair (n % 100) := by
  have halves : padded (2 + 2) n = padded 2 (n / 100) ++ padded 2 (n % 100) :=
    padded_add (by decide) (by decide) n
  rw [halves, String.toList_append, toList_padded_two (by omega), toList_padded_two (by omega)]

namespace Rfc3339

/-- A way to tell an instant: its parts at an offset, how many digits the fraction has, and whether
the zone is the letter Z. -/
structure Spelling where
  parts : Parts
  digits : Nat
  isZulu : Bool

/-- Whether the parts are in their ranges, the digits are enough, and the letter is right. -/
structure Spelling.IsValid (s : Spelling) : Prop where
  parts : s.parts.IsValid
  digits : 10 ^ (9 - s.digits) ∣ s.parts.nanos
  zone : s.isZulu = true → s.parts.offset = 0

/-- A fraction in some number of digits, of which nine count. -/
def fractionOf (digits nanos : Nat) : String :=
  if digits = 0 then ""
  else "." ++ padded (min digits 9) (nanos / 10 ^ (9 - digits)) ++
    String.ofList (List.replicate (digits - 9) '0')

/-- The zone at an offset. -/
def zoneOf (isZulu : Bool) (offset : Int) : String :=
  if isZulu then "Z"
  else (if offset < 0 then "-" else "+") ++ padded 2 (offset.natAbs / 3600) ++ ":" ++
    padded 2 (offset.natAbs / 60 % 60)

/-- The text of a spelling. -/
def Spelling.text (s : Spelling) : String :=
  let p := s.parts
  Instant.yearText p.date.year ++ "-" ++ padded 2 p.date.month ++ "-" ++ padded 2 p.date.day ++
    "T" ++ padded 2 p.hour ++ ":" ++ padded 2 p.minute ++ ":" ++ padded 2 p.second ++
    fractionOf s.digits p.nanos ++ zoneOf s.isZulu p.offset

/-- The digits of a fraction. -/
def fractionDigits (digits nanos : Nat) : List Char :=
  (padded (min digits 9) (nanos / 10 ^ (9 - digits))).toList ++ List.replicate (digits - 9) '0'

theorem isDigit_of_mem_fractionDigits {digits nanos : Nat} {c : Char}
    (member : c ∈ fractionDigits digits nanos) : c.isDigit = true := by
  obtain first | zero := List.mem_append.mp member
  · exact isDigit_of_mem_padded first
  · rw [List.eq_of_mem_replicate zero]
    decide

theorem toList_fractionOf {digits : Nat} (any : digits ≠ 0) (nanos : Nat) :
    (fractionOf digits nanos).toList = '.' :: fractionDigits digits nanos := by
  simp [fractionOf, any, fractionDigits]

theorem fractionDigits_ne_nil {digits : Nat} (nanos : Nat) : fractionDigits digits nanos ≠ [] := by
  simp [fractionDigits, padded]

/-- The characters of a zone. -/
theorem toList_zoneOf {offset : Int} (bounds : -largestOffset ≤ offset ∧ offset ≤ largestOffset)
    (isZulu : Bool) : (zoneOf isZulu offset).toList =
      if isZulu then ['Z']
      else (if offset < 0 then '-' else '+') ::
        (pair (offset.natAbs / 3600) ++ ':' :: pair (offset.natAbs / 60 % 60)) := by
  rw [largestOffset] at bounds
  cases isZulu with
  | true => simp [zoneOf]
  | false =>
    simp only [zoneOf, Bool.false_eq_true, if_false, String.toList_append]
    rw [toList_padded_two (by omega), toList_padded_two (by omega)]
    split_ifs <;> simp

/-- A zone begins with its letter or its sign. -/
theorem exists_zoneOf {offset : Int} (bounds : -largestOffset ≤ offset ∧ offset ≤ largestOffset)
    (isZulu : Bool) :
    ∃ c cs, (zoneOf isZulu offset).toList = c :: cs ∧ c ∈ ['Z', '+', '-'] := by
  rw [toList_zoneOf bounds]
  split_ifs
  · exact ⟨_, _, rfl, by decide⟩
  · exact ⟨_, _, rfl, by decide⟩
  · exact ⟨_, _, rfl, by decide⟩

/-- The characters of the date and the time, without the year, before others. -/
def Parts.fields (p : Parts) (rest : List Char) : List Char :=
  '-' :: (pair p.date.month ++ '-' :: (pair p.date.day ++ 'T' :: (pair p.hour ++ ':' ::
    (pair p.minute ++ ':' :: (pair p.second ++ rest)))))

/-- The characters of a spelling. -/
theorem toList_text {s : Spelling} (date : s.parts.date.isValid = true)
    (time : s.parts.hour < 24 ∧ s.parts.minute < 60 ∧ s.parts.second ≤ 60) : s.text.toList =
      (Instant.yearText s.parts.date.year).toList ++ s.parts.fields
        ((fractionOf s.digits s.parts.nanos).toList ++
          (zoneOf s.isZulu s.parts.offset).toList) := by
  have fields := Date.isValid_iff.mp date
  have days := monthLength_le s.parts.date.year s.parts.date.month
  simp only [Spelling.text, String.toList_append]
  rw [toList_padded_two (by omega), toList_padded_two (by omega), toList_padded_two (by omega),
    toList_padded_two (by omega), toList_padded_two (by omega)]
  simp [Parts.fields]

/-! ### Instants as they are spelled -/

/-- The parts of an instant at an offset. -/
def partsAt (offset : Int) (a : Instant) : Parts :=
  let seconds := a.seconds + offset
  let time := (seconds % 86400).toNat
  let leap := Instant.second ≤ a.nanos
  { date := Date.ofDays (seconds / 86400)
    hour := time / 3600
    minute := time / 60 % 60
    second := time % 60 + if leap then 1 else 0
    nanos := if leap then a.nanos - Instant.second else a.nanos
    offset }

/-- The parts of an instant tell it. -/
theorem instant_partsAt {a : Instant} (clock : a.OnClock) {offset : Int}
    (minutes : offset % 60 = 0) : (partsAt offset a).instant = a := by
  obtain ⟨seconds, nanos⟩ := a
  rw [Instant.OnClock] at clock
  simp only at clock
  rw [Parts.instant, instantOf, Instant.mk.injEq]
  by_cases leap : Instant.second ≤ nanos
  · have last : ((seconds + offset) % 86400).toNat % 60 + 1 = 60 := by omega
    simp only [partsAt, leap, if_true, last, Date.toDays_ofDays]
    omega
  · have early : ((seconds + offset) % 86400).toNat % 60 + 0 ≠ 60 := by omega
    simp only [partsAt, leap, if_false, early, Date.toDays_ofDays]
    omega

/-- A clock shows the time of an instant. -/
theorem time_partsAt (offset : Int) (a : Instant) :
    (partsAt offset a).hour < 24 ∧ (partsAt offset a).minute < 60 ∧
      (partsAt offset a).second ≤ 60 := by
  by_cases leap : Instant.second ≤ a.nanos
  · simp only [partsAt, leap, if_true]
    omega
  · simp only [partsAt, leap, if_false]
    omega

theorem nanos_partsAt {a : Instant} (clock : a.OnClock) (offset : Int) :
    (partsAt offset a).nanos < Instant.second := by
  rw [Instant.OnClock] at clock
  by_cases leap : Instant.second ≤ a.nanos
  · simp only [partsAt, leap, if_true]
    omega
  · simp only [partsAt, leap, if_false]
    omega

/-- The parts of an instant are in their ranges if the year is. -/
theorem isValid_partsAt {a : Instant} (clock : a.OnClock) {offset : Int} (minutes : offset % 60 = 0)
    (bounds : -largestOffset ≤ offset ∧ offset ≤ largestOffset)
    (year : 0 ≤ (partsAt offset a).date.year ∧ (partsAt offset a).date.year ≤ 9999) :
    (partsAt offset a).IsValid where
  date := Date.isValid_ofDays _
  year := year
  time := time_partsAt offset a
  nanos := nanos_partsAt clock offset
  minutes := minutes
  offset := bounds

/-- The digits of the fraction of an instant in answers. -/
def digitsOf (nanos : Nat) : Nat :=
  if nanos = 0 then 0 else if nanos % 1000000 = 0 then 3 else if nanos % 1000 = 0 then 6 else 9

theorem fractionText_eq (nanos : Nat) : Instant.fractionText nanos =
    fractionOf (digitsOf nanos) nanos := by
  unfold Instant.fractionText digitsOf
  split_ifs <;> simp [fractionOf]

/-- The digits of the fraction of an instant in answers are enough. -/
theorem pow_digitsOf_dvd (nanos : Nat) : 10 ^ (9 - digitsOf nanos) ∣ nanos := by
  unfold digitsOf
  split_ifs with none three six
  · rw [none]
    exact Nat.dvd_zero _
  · exact Nat.dvd_of_mod_eq_zero three
  · exact Nat.dvd_of_mod_eq_zero six
  · exact Nat.one_dvd _

/-- The spelling of an instant in answers. -/
def spelling (a : Instant) : Spelling := ⟨partsAt 0 a, digitsOf (partsAt 0 a).nanos, true⟩

/-- The text of an instant in answers is the text of this spelling. -/
theorem text_spelling (a : Instant) : (spelling a).text = a.render := by
  simp only [Spelling.text, spelling, Instant.render, Instant.renderWith, partsAt, Int.add_zero,
    fractionText_eq]
  rfl

/-- The spelling of an instant in answers is one, if the year has four digits. -/
theorem isValid_spelling {a : Instant} (clock : a.OnClock) (four : a.HasFourDigits) :
    (spelling a).IsValid where
  parts := isValid_partsAt clock rfl (by decide) (by rw [partsAt, Int.add_zero]; exact four)
  digits := pow_digitsOf_dvd _
  zone _ := rfl

/-- The spelling of an instant in answers tells the instant. -/
theorem instant_spelling {a : Instant} (clock : a.OnClock) : (spelling a).parts.instant = a :=
  instant_partsAt clock rfl

end Rfc3339
end ProxyMeter.Calendar
