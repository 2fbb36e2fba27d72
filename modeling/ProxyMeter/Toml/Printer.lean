import ProxyMeter.Text.Numeral
import ProxyMeter.Toml.Value

/-!
# Writing TOML

Every string is a basic string of one line, and every table inside the document is inline, so a
document has one line for each key at its top.
-/

namespace ProxyMeter.Toml

/-- A character inside a basic string. -/
def escaped (c : Char) : List Char :=
  if c = '"' then ['\\', '"']
  else if c = '\\' then ['\\', '\\']
  else if c.toNat < 0x20 ∨ c.toNat = 0x7F then '\\' :: 'x' :: Text.hexByte (UInt8.ofNat c.toNat)
  else [c]

/-- A basic string. -/
def quoted (s : String) : List Char := '"' :: s.toList.flatMap escaped ++ ['"']

mutual

/-- A value on one line. -/
def Value.chars : Value → List Char
  | .string s => quoted s
  | .integer n => (toString n).toList
  | .float literal => literal.toList
  | .boolean b => (if b then "true" else "false").toList
  | .dateTime literal => literal.toList
  | .array items => '[' :: itemChars items ++ [']']
  | .table entries => '\x7b' :: pairChars entries ++ ['\x7d']

/-- Items, a comma after each. -/
def itemChars : List Value → List Char
  | [] => []
  | v :: rest => v.chars ++ ',' :: itemChars rest

/-- Pairs, a comma after each. -/
def pairChars : List (String × Value) → List Char
  | [] => []
  | (key, v) :: rest => quoted key ++ '=' :: v.chars ++ ',' :: pairChars rest

end

/-- A document with these keys at its top. -/
def document (entries : List (String × Value)) : String :=
  String.ofList (entries.flatMap fun (key, v) => quoted key ++ '=' :: v.chars ++ ['\n'])

end ProxyMeter.Toml
