import ProxyMeter.Decimal.Notation

/-!
# JSON values

A number is an integer if it is written without fraction and exponent, and a decimal otherwise. A
string literal may hold an unpaired surrogate: it is then well-formed but stands for no text.
-/

namespace ProxyMeter.Json

/-- A number as it is written. -/
inductive Number where
  | integer (value : Int)
  | decimal (value : Decimal.Scientific)
  deriving DecidableEq, Repr

/-- What a string literal stands for; none if it has an unpaired surrogate. -/
abbrev Literal := Option String

/-- A JSON value. An object keeps its members in order, repeated keys included. -/
inductive Value where
  | null
  | boolean (value : Bool)
  | number (value : Number)
  | string (value : Literal)
  | array (items : List Value)
  | object (members : List (Literal × Value))
  deriving Repr

namespace Value

/-- A text. -/
def text (s : String) : Value := .string (some s)

/-- An integer. -/
def int (n : Int) : Value := .number (.integer n)

/-- A natural number. -/
def nat (n : Nat) : Value := .int n

/-- The shortest decimal of a float. -/
def float (x : Float) : Value := .number (.decimal (Decimal.shortest x))

/-- An object with these members. -/
def record (members : List (String × Value)) : Value :=
  .object (members.map fun (key, value) => (some key, value))

/-- The first member with a key. -/
def member? (key : String) : Value → Option Value
  | .object members => members.lookup (some key)
  | _ => none

end Value

end ProxyMeter.Json
