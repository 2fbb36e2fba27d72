import ProxyMeter.Text.Percent

/-!
# The query of a request

A query is a list of parameters between ampersands, each a name and a value on the two sides of the
first equals sign. In both a plus sign stands for a blank and percent signs are decoded; what is not
UTF-8 becomes replacement characters. A question has parameters of its own: others are passed over,
and its own may stand only once.
-/

namespace ProxyMeter.Api

/-- Bytes between separators. -/
def splitBytes (separator : UInt8) (bytes : List UInt8) : List (List UInt8) :=
  bytes.foldr (fun b parts =>
    if b = separator then [] :: parts
    else match parts with
      | part :: rest => (b :: part) :: rest
      | [] => [[b]]) [[]]

/-- The text of a name or a value. -/
def decodedText (bytes : List UInt8) : String :=
  Text.ofUtf8Lossy (Text.percentDecoded (bytes.map fun b => if b = 0x2B then 0x20 else b))

/-- The names and values of a query; empty parts are passed over. -/
def parameters (query : String) : List (String × String) :=
  ((splitBytes 0x26 (Text.utf8 query)).filter (!·.isEmpty)).map fun part =>
    (decodedText (part.takeWhile (· ≠ 0x3D)),
      decodedText ((part.dropWhile (· ≠ 0x3D)).drop 1))

/-- What a question can be told. -/
inductive Parameter where
  | start
  | stop
  | limit
  | offset
  deriving DecidableEq, Repr

/-- The name of a parameter. -/
def Parameter.name : Parameter → String
  | .start => "start"
  | .stop => "end"
  | .limit => "limit"
  | .offset => "offset"

/-- The parameters of a question (`LimitQuery`, `RangeQuery` and `LogsQuery`). -/
structure Query where
  start : Option String := none
  stop : Option String := none
  limit : Option Nat := none
  offset : Option Nat := none
  deriving DecidableEq, Repr

/-- Why a query is refused. -/
inductive QueryFault where
  | repeated (parameter : Parameter)
  | notANumber (parameter : Parameter) (fault : Text.NumeralFault)
  deriving DecidableEq, Repr

/-- The words for a refused query. -/
def QueryFault.message : QueryFault → String
  | .repeated p =>
    "Failed to deserialize query string: duplicate field \x60" ++ p.name ++ "\x60"
  | .notANumber p fault =>
    "Failed to deserialize query string: " ++ p.name ++ ": " ++ fault.message

namespace Query

/-- The greatest number that a parameter can be. -/
def greatest : Nat := UInt64.size - 1

/-- The number that a parameter is. -/
def number (p : Parameter) (value : String) : Except QueryFault Nat :=
  match Text.numeral greatest value with
  | .ok n => .ok n
  | .error fault => .error (.notANumber p fault)

/-- Whether a parameter has been given. -/
def has (q : Query) : Parameter → Bool
  | .start => q.start.isSome
  | .stop => q.stop.isSome
  | .limit => q.limit.isSome
  | .offset => q.offset.isSome

/-- Adds the value of a parameter. -/
def give (q : Query) (p : Parameter) (value : String) : Except QueryFault Query :=
  if q.has p then .error (.repeated p)
  else match p with
    | .start => .ok { q with start := value }
    | .stop => .ok { q with stop := value }
    | .limit => (number p value).map fun n => { q with limit := some n }
    | .offset => (number p value).map fun n => { q with offset := some n }

/-- Reads the parameters that a question has, in their order; the first fault decides. -/
def read (own : List Parameter) (given : List (String × String)) : Except QueryFault Query :=
  given.foldlM (fun q (name, value) =>
    match own.find? (·.name == name) with
    | some p => q.give p value
    | none => .ok q) {}

end Query

end ProxyMeter.Api
