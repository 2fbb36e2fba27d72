import ProxyMeter.Json.Value
import ProxyMeter.Text.Numeral

/-!
# Writing JSON

The compact form: no blanks, members in order. In a string a quote, a backslash and the control
characters below U+0020 are escaped, with the short escapes where there is one; all else is written
as it is.
-/

namespace ProxyMeter.Json

/-- A character inside a string literal. -/
def escaped (c : Char) : List Char :=
  if c = '"' then ['\\', '"']
  else if c = '\\' then ['\\', '\\']
  else if c = '\n' then ['\\', 'n']
  else if c = '\r' then ['\\', 'r']
  else if c = '\t' then ['\\', 't']
  else if c.toNat = 0x08 then ['\\', 'b']
  else if c.toNat = 0x0C then ['\\', 'f']
  else if c.toNat < 0x20 then
    '\\' :: 'u' :: '0' :: '0' :: Text.hexByte (UInt8.ofNat c.toNat)
  else [c]

/-- A string literal. -/
def quoted (s : String) : List Char :=
  '"' :: s.toList.flatMap escaped ++ ['"']

/-- A number. -/
def Number.render : Number → String
  | .integer n => toString n
  | .decimal d => d.render .answers

mutual

/-- A value in compact form. -/
def Value.chars : Value → List Char
  | .null => "null".toList
  | .boolean b => (if b then "true" else "false").toList
  | .number n => n.render.toList
  | .string s => quoted (s.getD "")
  | .array items => '[' :: itemChars items ++ [']']
  | .object members => '{' :: memberChars members ++ ['}']

/-- Items with commas between them. -/
def itemChars : List Value → List Char
  | [] => []
  | [v] => v.chars
  | v :: rest => v.chars ++ ',' :: itemChars rest

/-- Members with commas between them. -/
def memberChars : List (Literal × Value) → List Char
  | [] => []
  | [(key, v)] => quoted (key.getD "") ++ ':' :: v.chars
  | (key, v) :: rest => quoted (key.getD "") ++ ':' :: v.chars ++ ',' :: memberChars rest

end

/-- A value in compact form. -/
def Value.render (v : Value) : String := String.ofList v.chars

end ProxyMeter.Json
