import ProxyMeter.Calendar.Date
import ProxyMeter.Text.Numeral
import ProxyMeter.Toml.Value

/-!
# Literals without quotes

Booleans, integers in four bases, floats, and the four kinds of date-times. An underscore may stand
between two digits of a number.
-/

namespace ProxyMeter.Toml

/-- A decimal digit. -/
def isDigit (c : Char) : Bool := '0' ≤ c && c ≤ '9'

/-- The digits of a group of digits, in which single underscores may stand between two digits. -/
def grouped? (digit : Char → Bool) : List Char → Option (List Char)
  | [] => none
  | [c] => if digit c then some [c] else none
  | c :: '_' :: d :: rest =>
    if digit c then (grouped? digit (d :: rest)).map (c :: ·) else none
  | c :: rest => if digit c then (grouped? digit rest).map (c :: ·) else none

/-- The value of digits in a base. -/
def inBase (base : Nat) (ds : List Char) : Nat :=
  ds.foldl (fun n d => n * base + (Text.hexValue? d).getD 0) 0

/-- The digits of a decimal number without superfluous leading zeros. -/
def whole? (cs : List Char) : Option (List Char) := do
  let ds ← grouped? isDigit cs
  match ds with
  | '0' :: _ :: _ => none
  | _ => some ds

/-- A natural number in a base of two, eight or sixteen. -/
def natural? (base : Nat) (cs : List Char) : Option Nat :=
  (grouped? (fun c => (Text.hexValue? c).any (· < base)) cs).map (inBase base)

/-- Whether an integer fits a word of one hundred and twenty-eight bits, signed or not. -/
def isRepresentable (n : Int) : Bool := 
  -(Nat.pow 2 127 : Nat) ≤ n && n < (Nat.pow 2 128 : Nat)

/-- An integer literal. Only a decimal one has a sign. -/
def integer? (cs : List Char) : Option Int :=
  let decimal? (ds : List Char) : Option Int := (whole? ds).map fun ds => (inBase 10 ds : Nat)
  let value : Option Int := match cs with
    | '0' :: 'x' :: ds => (natural? 16 ds).map Int.ofNat
    | '0' :: 'o' :: ds => (natural? 8 ds).map Int.ofNat
    | '0' :: 'b' :: ds => (natural? 2 ds).map Int.ofNat
    | '+' :: ds => decimal? ds
    | '-' :: ds => (decimal? ds).map (-·)
    | ds => decimal? ds
  value.filter isRepresentable

/-- A list up to the first item that passes, and the list after it if there is one. -/
def splitAtFirst (p : Char → Bool) (cs : List Char) : List Char × Option (List Char) :=
  match cs.dropWhile (fun c => !p c) with
  | [] => (cs, none)
  | _ :: rest => (cs.takeWhile (fun c => !p c), some rest)

/-- A literal without the sign at its front. -/
def unsigned : List Char → List Char
  | '+' :: cs => cs
  | '-' :: cs => cs
  | cs => cs

/-- Whether `digits * 10 ^ exponent` rounds to a finite float of sixty-four bits. -/
def isFinite (digits : Nat) (exponent : Int) : Bool :=
  let limit := Nat.pow 2 1024 - Nat.pow 2 970
  if digits = 0 then true
  else if 400 < exponent then false
  else if 0 ≤ exponent then digits * Nat.pow 10 exponent.toNat < limit
  else
    -- So small an exponent is out of reach for the digits that the literal has.
    let width := (Nat.toDigits 10 digits).length
    (-exponent).toNat + 300 > width || digits < limit * Nat.pow 10 (-exponent).toNat

/-- Whether a literal is a float: infinity, not a number, or digits with a fraction or an exponent
and a finite value. -/
def isFloat (cs : List Char) : Bool :=
  let cs := unsigned cs
  if cs = ['i', 'n', 'f'] ∨ cs = ['n', 'a', 'n'] then true else
  let (mantissa, exponent) := splitAtFirst (fun c => c = 'e' || c = 'E') cs
  let (front, back) := splitAtFirst (· = '.') mantissa
  if exponent.isNone ∧ back.isNone then false else
  let places := match back with
    | none => some []
    | some ds => grouped? isDigit ds
  let power := match exponent with
    | none => some 0
    | some ds => (grouped? isDigit (unsigned ds)).map fun digits =>
      let n : Int := (inBase 10 digits : Nat)
      if ds.head? = some '-' then -n else n
  match whole? front, places, power with
  | some whole, some places, some power =>
    isFinite (inBase 10 (whole ++ places)) (power - places.length)
  | _, _, _ => false

/-- The value of two digits. -/
def pair? (a b : Char) : Option Nat := Text.natural? [a, b]

/-- Whether a literal is an offset from universal time. -/
def isOffset : List Char → Bool
  | ['Z'] => true
  | ['z'] => true
  | [s, a, b, ':', c, d] =>
    (s = '+' || s = '-') && (pair? a b).any (· ≤ 23) && (pair? c d).any (· ≤ 59)
  | _ => false

/-- Whether a literal starts with a time of day, the seconds and their fraction being optional, and
what follows the time. -/
def time? : List Char → Option (List Char)
  | a :: b :: ':' :: c :: d :: rest =>
    if (pair? a b).any (· ≤ 23) && (pair? c d).any (· ≤ 59) then
      match rest with
      | ':' :: e :: f :: rest =>
        if (pair? e f).any (· ≤ 60) then
          match rest with
          | '.' :: rest =>
            if (rest.takeWhile isDigit).isEmpty then none else some (rest.dropWhile isDigit)
          | rest => some rest
        else none
      | rest => some rest
    else none
  | _ => none

/-- What follows a date at the front of a literal. -/
def date? : List Char → Option (List Char)
  | y :: y' :: y'' :: y''' :: '-' :: m :: m' :: '-' :: d :: d' :: rest => do
    let year ← Text.natural? [y, y', y'', y''']
    let month ← pair? m m'
    let day ← pair? d d'
    if (Calendar.Date.mk year month day).isValid then some rest else none
  | _ => none

/-- Whether a literal is a date, a time, or a date and a time with or without an offset. -/
def isDateTime (cs : List Char) : Bool :=
  match date? cs with
  | some [] => true
  | some (t :: rest) =>
    (t = 'T' || t = 't' || t = ' ') &&
      (time? rest).any fun rest => rest.isEmpty || isOffset rest
  | none => time? cs == some []

/-- The value of a literal. -/
def scalar? (cs : List Char) : Option Value :=
  if cs = "true".toList then some (.boolean true)
  else if cs = "false".toList then some (.boolean false)
  else match integer? cs with
    | some n => some (.integer n)
    | none =>
      if isFloat cs then some (.float (String.ofList cs))
      else if isDateTime cs then some (.dateTime (String.ofList cs))
      else none

/-- Characters that end a literal. -/
def endsLiteral (c : Char) : Bool :=
  c = '=' || c = ',' || c = '[' || c = ']' || c = '\x7b' || c = '\x7d' || c = ' ' || c = '\t' ||
    c = '#' || c = '\r' || c = '\n'

/-- A literal at the front of the input. One space may stand between a date and its time. -/
def literal (cs : List Char) : List Char × List Char :=
  let front := cs.takeWhile (fun c => !endsLiteral c)
  match date? front, cs.drop front.length with
  | some [], ' ' :: d :: rest =>
    if isDigit d then
      let back := (d :: rest).takeWhile (fun c => !endsLiteral c)
      (front ++ ' ' :: back, (d :: rest).drop back.length)
    else (front, ' ' :: d :: rest)
  | _, rest => (front, rest)

end ProxyMeter.Toml
