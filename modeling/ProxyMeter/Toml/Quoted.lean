import ProxyMeter.Text.Numeral

/-!
# Quoted strings and keys

A basic string stands between double quotes and knows escapes, a literal one between single quotes
and knows none. Three quotes open a string that may go over several lines; a line break right after
them does not belong to it, and up to two quotes may stand before the closing three.
-/

namespace ProxyMeter.Toml

/-- Control characters that no string and no comment may hold. -/
def isForbidden (c : Char) : Bool := (c.toNat < 0x20 && c ≠ '\t') || c.toNat = 0x7F

/-- The two blanks inside a line. -/
def isSpace (c : Char) : Bool := c = ' ' || c = '\t'

/-- The input after blanks inside the line. -/
def skipSpaces (cs : List Char) : List Char := cs.dropWhile isSpace

/-- The character with a code point, unless it is a surrogate or out of range. -/
def scalarValue? (n : Nat) : Option Char :=
  if n < 0xD800 ∨ (0xDFFF < n ∧ n < 0x110000) then some (Char.ofNat n) else none

/-- The character that hexadecimal digits name. -/
def named? (ds : List Char) : Option Char :=
  (ds.foldl (fun n d => n.bind fun n => (Text.hexValue? d).map (n * 16 + ·)) (some 0)).bind
    scalarValue?

/-- What an escape of one letter stands for. -/
def letterEscape? (c : Char) : Option Char :=
  if c = 'b' then some (Char.ofNat 0x08) else if c = 't' then some '\t'
  else if c = 'n' then some '\n' else if c = 'f' then some (Char.ofNat 0x0C)
  else if c = 'r' then some '\r' else if c = 'e' then some (Char.ofNat 0x1B)
  else if c = '"' then some '"' else if c = '\\' then some '\\' else none

/-- The input after a line break. -/
def afterBreak? : List Char → Option (List Char)
  | '\n' :: rest => some rest
  | '\r' :: '\n' :: rest => some rest
  | _ => none

/-- The input after blanks and line breaks. -/
def skipBlankLines : List Char → List Char
  | ' ' :: rest => skipBlankLines rest
  | '\t' :: rest => skipBlankLines rest
  | '\n' :: rest => skipBlankLines rest
  | '\r' :: '\n' :: rest => skipBlankLines rest
  | cs => cs

/-- What stands after a backslash. In a string of several lines a backslash at the end of a line
takes the blanks and line breaks after it away. -/
def escape? (multiline : Bool) : List Char → Option (List Char × List Char)
  | 'x' :: a :: b :: rest => (named? [a, b]).map fun c => ([c], rest)
  | 'u' :: a :: b :: c :: d :: rest => (named? [a, b, c, d]).map fun c => ([c], rest)
  | 'U' :: a :: b :: c :: d :: e :: f :: g :: h :: rest =>
    (named? [a, b, c, d, e, f, g, h]).map fun c => ([c], rest)
  | c :: rest =>
    match letterEscape? c with
    | some e => some ([e], rest)
    | none =>
      if multiline ∧ (afterBreak? (skipSpaces (c :: rest))).isSome then
        some ([], skipBlankLines (c :: rest))
      else none
  | [] => none

/-- One element of a string: the characters that it stands for. -/
def element? (escapes multiline : Bool) : List Char → Option (List Char × List Char)
  | '\n' :: rest => if multiline then some (['\n'], rest) else none
  | '\r' :: '\n' :: rest => if multiline then some (['\r', '\n'], rest) else none
  | '\\' :: rest => if escapes then escape? multiline rest else some (['\\'], rest)
  | c :: rest => if isForbidden c then none else some ([c], rest)
  | [] => none

/-- The inside of a string of one line, up to its closing quote. -/
def line? (quote : Char) (escapes : Bool) : Nat → List Char → Option (List Char × List Char)
  | 0, _ => none
  | fuel + 1, input =>
    if input.head? = some quote then some ([], input.tail) else
    match element? escapes false input with
    | none => none
    | some (cs, rest) => (line? quote escapes fuel rest).map fun (ds, r) => (cs ++ ds, r)

/-- The inside of a string of several lines, up to its closing quotes. -/
def lines? (quote : Char) (escapes : Bool) : Nat → List Char → Option (List Char × List Char)
  | 0, _ => none
  | fuel + 1, input =>
    let quotes := (input.takeWhile (· = quote)).length
    if 3 ≤ quotes then
      let kept := min (quotes - 3) 2
      some (List.replicate kept quote, input.drop (kept + 3))
    else
      match element? escapes true input with
      | none => none
      | some (cs, rest) => (lines? quote escapes fuel rest).map fun (ds, r) => (cs ++ ds, r)

/-- A string at the front of the input. -/
def string? (cs : List Char) : Option (String × List Char) :=
  let fuel := cs.length + 1
  let found := match cs with
    | '"' :: '"' :: '"' :: rest => lines? '"' true fuel ((afterBreak? rest).getD rest)
    | '\'' :: '\'' :: '\'' :: rest => lines? '\'' false fuel ((afterBreak? rest).getD rest)
    | '"' :: rest => line? '"' true fuel rest
    | '\'' :: rest => line? '\'' false fuel rest
    | _ => none
  found.map fun (text, rest) => (String.ofList text, rest)

/-- The characters of a key without quotes. -/
def isBare (c : Char) : Bool := c.isAlphanum || c = '_' || c = '-'

/-- One part of a key: bare, or a string of one line. -/
def keyPart? (cs : List Char) : Option (String × List Char) :=
  let found := match cs with
    | '"' :: rest => line? '"' true (cs.length + 1) rest
    | '\'' :: rest => line? '\'' false (cs.length + 1) rest
    | _ =>
      let bare := cs.takeWhile isBare
      if bare.isEmpty then none else some (bare, cs.drop bare.length)
  found.map fun (text, rest) => (String.ofList text, rest)

/-- A key of one or more parts with points between them, and the input after it and its blanks. -/
def keyPath? : Nat → List Char → Option (List String × List Char)
  | 0, _ => none
  | fuel + 1, input => do
    let (part, rest) ← keyPart? (skipSpaces input)
    match skipSpaces rest with
    | '.' :: rest => (keyPath? fuel rest).map fun (parts, r) => (part :: parts, r)
    | rest => some ([part], rest)

end ProxyMeter.Toml
