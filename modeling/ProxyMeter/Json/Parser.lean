import ProxyMeter.Json.Value
import ProxyMeter.Text.Numeral

/-!
# Reading JSON

A parser takes a value off the front of a list of characters. Every step consumes at least one
character, so the length of the input bounds the depth and the number of steps.
-/

namespace ProxyMeter.Json

/-- The four blanks of JSON. -/
def isBlank (c : Char) : Bool := c = ' ' || c = '\t' || c = '\n' || c = '\r'

/-- The input from its first character that is not blank. -/
def skipBlanks (cs : List Char) : List Char := cs.dropWhile isBlank

/-- The value of four hexadecimal digits. -/
def unit? (a b c d : Char) : Option Nat := do
  return ((← Text.hexValue? a) * 16 + (← Text.hexValue? b)) * 256 +
    ((← Text.hexValue? c) * 16 + (← Text.hexValue? d))

/-- What a short escape stands for. -/
def shortEscape? (c : Char) : Option Char :=
  if c = '"' then some '"' else if c = '\\' then some '\\' else if c = '/' then some '/'
  else if c = 'b' then some (Char.ofNat 0x08) else if c = 'f' then some (Char.ofNat 0x0C)
  else if c = 'n' then some '\n' else if c = 'r' then some '\r' else if c = 't' then some '\t'
  else none

/-- Whether a code unit starts a pair. -/
def isLeading (n : Nat) : Bool := 0xD800 ≤ n && n < 0xDC00

/-- Whether a code unit ends a pair. -/
def isTrailing (n : Nat) : Bool := 0xDC00 ≤ n && n < 0xE000

/-- The code point of a pair. -/
def paired (leading trailing : Nat) : Char :=
  Char.ofNat (0x10000 + (leading - 0xD800) * 0x400 + (trailing - 0xDC00))

/-- One element of a string literal and the rest of the input; a surrogate without a partner stands
for no character. -/
def element? : List Char → Option (Option Char × List Char)
  | '\\' :: 'u' :: a :: b :: c :: d :: rest => do
    let n ← unit? a b c d
    if isLeading n then
      match rest with
      | '\\' :: 'u' :: e :: f :: g :: h :: rest' =>
        match unit? e f g h with
        | some m => if isTrailing m then some (some (paired n m), rest') else some (none, rest)
        | none => some (none, rest)
      | _ => some (none, rest)
    else if isTrailing n then some (none, rest)
    else some (some (Char.ofNat n), rest)
  | '\\' :: c :: rest => (shortEscape? c).map fun e => (some e, rest)
  | '\\' :: [] => none
  | c :: rest => if c.toNat < 0x20 then none else some (some c, rest)
  | [] => none

/-- The inside of a string literal after `acc`, up to the closing quote. -/
def literal? : Nat → List Char → Literal → List Char → Option (Literal × List Char)
  | 0, _, _, _ => none
  | fuel + 1, acc, sound, input =>
    match input with
    | '"' :: rest => some (sound.map fun _ => String.ofList acc.reverse, rest)
    | _ =>
      match element? input with
      | none => none
      | some (some c, rest) => literal? fuel (c :: acc) sound rest
      | some (none, rest) => literal? fuel acc none rest

/-- Digits at the front of the input. -/
def digits (cs : List Char) : List Char × List Char :=
  (cs.takeWhile Char.isDigit, cs.dropWhile Char.isDigit)

/-- The integer part of a number: one zero, or digits that do not start with zero. -/
def whole? (cs : List Char) : Option (List Char × List Char) :=
  match digits cs with
  | ([], _) => none
  | (['0'], rest) => some (['0'], rest)
  | ('0' :: _, _) => none
  | (ds, rest) => some (ds, rest)

/-- The fraction of a number: its digits, none if there is no point. -/
def fraction? : List Char → Option (List Char × List Char)
  | '.' :: rest =>
    match digits rest with
    | ([], _) => none
    | part => some part
  | cs => some ([], cs)

/-- The exponent of a number, if it has one. -/
def exponent? : List Char → Option (Option Int × List Char)
  | c :: rest =>
    if c = 'e' ∨ c = 'E' then
      let (negative, unsigned) := match rest with
        | '+' :: r => (false, r)
        | '-' :: r => (true, r)
        | r => (false, r)
      match digits unsigned with
      | ([], _) => none
      | (ds, rest') =>
        let n : Int := (Text.digitsValue? 0 ds).getD 0
        some (some (if negative then -n else n), rest')
    else some (none, c :: rest)
  | [] => some (none, [])

/-- A number. The literal -0 is a decimal, as no integer is negative zero. -/
def number? (cs : List Char) : Option (Number × List Char) := do
  let (negative, unsigned) := match cs with
    | '-' :: rest => (true, rest)
    | rest => (false, rest)
  let (front, rest) ← whole? unsigned
  let (back, rest) ← fraction? rest
  let (exponent, rest) ← exponent? rest
  let magnitude ← Text.digitsValue? 0 (front ++ back)
  if back.isEmpty ∧ exponent.isNone ∧ ¬ (negative ∧ magnitude = 0) then
    some (.integer (if negative then -magnitude else magnitude), rest)
  else
    some (.decimal ⟨negative, magnitude, exponent.getD 0 - back.length⟩, rest)

/-- The input after a word at its front. -/
def afterWord? (word : String) (cs : List Char) : Option (List Char) :=
  if word.toList.isPrefixOf cs then some (cs.drop word.length) else none

mutual

/-- A value at the front of the input. -/
def value? : Nat → List Char → Option (Value × List Char)
  | 0, _ => none
  | fuel + 1, input =>
    match skipBlanks input with
    | '"' :: rest => (literal? (rest.length + 1) [] (some "") rest).map fun (s, r) => (.string s, r)
    | '[' :: rest =>
      match skipBlanks rest with
      | ']' :: rest' => some (.array [], rest')
      | rest' => (items? fuel rest').map fun (vs, r) => (.array vs, r)
    | '{' :: rest =>
      match skipBlanks rest with
      | '}' :: rest' => some (.object [], rest')
      | rest' => (members? fuel rest').map fun (ms, r) => (.object ms, r)
    | 'n' :: rest => (afterWord? "ull" rest).map fun r => (.null, r)
    | 't' :: rest => (afterWord? "rue" rest).map fun r => (.boolean true, r)
    | 'f' :: rest => (afterWord? "alse" rest).map fun r => (.boolean false, r)
    | rest => (number? rest).map fun (n, r) => (.number n, r)

/-- One or more items and the closing bracket. -/
def items? : Nat → List Char → Option (List Value × List Char)
  | 0, _ => none
  | fuel + 1, input =>
    match value? fuel input with
    | none => none
    | some (v, rest) =>
      match skipBlanks rest with
      | ',' :: rest' => (items? fuel rest').map fun (vs, r) => (v :: vs, r)
      | ']' :: rest' => some ([v], rest')
      | _ => none

/-- One or more members and the closing brace. -/
def members? : Nat → List Char → Option (List (Literal × Value) × List Char)
  | 0, _ => none
  | fuel + 1, input =>
    match skipBlanks input with
    | '"' :: rest =>
      match literal? (rest.length + 1) [] (some "") rest with
      | none => none
      | some (key, rest) =>
        match skipBlanks rest with
        | ':' :: rest =>
          match value? fuel rest with
          | none => none
          | some (v, rest) =>
            match skipBlanks rest with
            | ',' :: rest' => (members? fuel rest').map fun (ms, r) => ((key, v) :: ms, r)
            | '}' :: rest' => some ([(key, v)], rest')
            | _ => none
        | _ => none
    | _ => none

end

/-- The value that a whole text is, with blanks around it. -/
def parse? (s : String) : Option Value :=
  let cs := s.toList
  match value? (cs.length + 1) cs with
  | some (v, rest) => if (skipBlanks rest).isEmpty then some v else none
  | none => none

end ProxyMeter.Json
