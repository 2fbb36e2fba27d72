/-!
# Numerals

Decimal numerals as they stand in the environment, and the fixed-width hexadecimal numerals of
messages. A decimal numeral is one or more ASCII digits after at most one plus sign; it is refused
when its value is over the given bound.
-/

namespace ProxyMeter.Text

/-- The value of an ASCII decimal digit. -/
def digitValue? (c : Char) : Option Nat :=
  if '0' ≤ c ∧ c ≤ '9' then some (c.toNat - '0'.toNat) else none

/-- The value of a list of decimal digits, most significant first, after `acc`. -/
def digitsValue? : Nat → List Char → Option Nat
  | acc, [] => some acc
  | acc, c :: cs => (digitValue? c).bind fun d => digitsValue? (acc * 10 + d) cs

/-- One or more decimal digits. -/
def natural? (cs : List Char) : Option Nat :=
  if cs.isEmpty then none else digitsValue? 0 cs

/-- Why a text is not a numeral for a word. -/
inductive NumeralFault where
  | empty
  | notADigit
  | tooLarge
  deriving DecidableEq, Repr

/-- The words for a text that is not a numeral. -/
def NumeralFault.message : NumeralFault → String
  | .empty => "cannot parse integer from empty string"
  | .notADigit => "invalid digit found in string"
  | .tooLarge => "number too large to fit in target type"

/-- The value of digits after `acc`, at most `bound`. The first digit that does not fit or is none
decides. -/
def digitsWithin (bound : Nat) : Nat → List Char → Except NumeralFault Nat
  | acc, [] => .ok acc
  | acc, c :: cs =>
    match digitValue? c with
    | none => .error .notADigit
    | some d =>
      if acc * 10 + d ≤ bound then digitsWithin bound (acc * 10 + d) cs else .error .tooLarge

/-- The value of a numeral with an optional plus sign, at most `bound`. -/
def numeral (bound : Nat) (s : String) : Except NumeralFault Nat :=
  match s.toList with
  | [] => .error .empty
  | ['+'] => .error .notADigit
  | '+' :: digits => digitsWithin bound 0 digits
  | digits => digitsWithin bound 0 digits

/-- A numeral with an optional plus sign whose value is at most `bound`. -/
def boundedNumeral? (bound : Nat) (s : String) : Option Nat := (numeral bound s).toOption

/-- The lower-case digit of a value below sixteen. -/
def hexDigit (n : Nat) : Char :=
  if n < 10 then Char.ofNat ('0'.toNat + n) else Char.ofNat ('a'.toNat + (n - 10))

/-- The value of a hexadecimal digit of either case. -/
def hexValue? (c : Char) : Option Nat :=
  if '0' ≤ c ∧ c ≤ '9' then some (c.toNat - '0'.toNat)
  else if 'a' ≤ c ∧ c ≤ 'f' then some (c.toNat - 'a'.toNat + 10)
  else if 'A' ≤ c ∧ c ≤ 'F' then some (c.toNat - 'A'.toNat + 10)
  else none

/-- The two hexadecimal digits of a byte. -/
def hexByte (b : UInt8) : List Char :=
  [hexDigit (b.toNat / 16), hexDigit (b.toNat % 16)]

/-- The hexadecimal digits of a number, without leading zeros. -/
def hexNatural (n : Nat) : String :=
  String.ofList (Nat.toDigits 16 n)

/-- A decimal numeral filled with zeros on the left to at least `width` digits. -/
def padded (width n : Nat) : String :=
  let digits := Nat.toDigits 10 n
  String.ofList (List.replicate (width - digits.length) '0' ++ digits)

end ProxyMeter.Text
