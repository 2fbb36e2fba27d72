import ProxyMeter.Log.Line
import ProxyMeter.Text.Blank
import ProxyMeter.Text.Cut
import ProxyMeter.Text.Numeral

/-!
# Which lines are kept

A filter is a list of directives. Each names the least grave level to keep, or none, for the origins
whose path starts with a target. Of the directives that fit a line the one with the longest target
decides, and of those with the same target the last; a line that none fits is not kept.
-/

namespace ProxyMeter.Log

/-- What to keep of the lines from some origins. -/
structure Directive where
  /-- How the paths of the origins start; any path will do if absent. -/
  target : Option String := none
  /-- The least grave level to keep; nothing is kept if absent. -/
  least : Option Level := some .trace
  /-- Whether it is meant for lines inside a named context; lines here are in none. -/
  inContext : Bool := false
  deriving DecidableEq, Repr

namespace Directive

/-- Why a text is not a directive. -/
inductive Fault where
  | form
  | level
  deriving DecidableEq, Repr

/-- The words for a fault. -/
def Fault.message : Fault → String
  | .form => "invalid filter directive"
  | .level => "error parsing level filter: expected one of " ++
      "\"off\", \"error\", \"warn\", \"info\", \"debug\", \"trace\", or a number 0-5"

/-- The level that a number stands for; nothing at zero. -/
def levelOfRank? : Nat → Option (Option Level)
  | 0 => some none
  | 1 => some (some .error)
  | 2 => some (some .warn)
  | 3 => some (some .info)
  | 4 => some (some .debug)
  | 5 => some (some .trace)
  | _ => none

/-- The level that a name stands for, in letters of either case. -/
def levelOfName? (name : String) : Option (Option Level) :=
  match name.toLower with
  | "off" => some none
  | "error" => some (some .error)
  | "warn" => some (some .warn)
  | "info" => some (some .info)
  | "debug" => some (some .debug)
  | "trace" => some (some .trace)
  | _ => none

/-- A level by its number or its name. -/
def level? (text : String) : Option (Option Level) :=
  match Text.boundedNumeral? 5 text with
  | some n => levelOfRank? n
  | none => levelOfName? text

/-- The level after an equals sign; all levels if nothing is there. -/
def levelOrAll (text : String) : Except Fault (Option Level) :=
  if text = "" then .ok (some .trace)
  else match level? text with
    | some least => .ok least
    | none => .error .level

/-- Whether a directive can start with a character: a letter or digit, one of three signs, or
anything beyond ASCII. -/
def canStart (c : Char) : Bool :=
  c.isAlphanum || c = '-' || c = ':' || c = '_' || 0x80 ≤ c.toNat

/-- A directive that ends with a context in brackets and perhaps a level. -/
def parseContext (target : String) (rest : List Char) : Except Fault Directive :=
  match rest.dropWhile (· ≠ ']') with
  | [']'] => .ok { target := some target, inContext := true }
  | ']' :: '=' :: level => do
    let least ← levelOrAll (String.ofList level)
    return { target := some target, least, inContext := true }
  | _ => .error .form

/-- Reads a directive: a level, a target, or a target and a level between which an equals sign
stands. -/
def parse (text : String) : Except Fault Directive :=
  let cs := Text.trimBlanks text.toList
  let front := cs.takeWhile fun c => c ≠ '=' && c ≠ '['
  let target := String.ofList front
  match cs, cs.drop front.length with
  | [], _ => .error .form
  | '[' :: rest, _ => parseContext "" rest
  | c :: _, rest =>
    if canStart c then
      match rest with
      | [] =>
        match level? target with
        | some least => .ok { least }
        | none => .ok { target := some target }
      | '=' :: level => do
        let least ← levelOrAll (String.ofList level)
        return { target := some target, least }
      | _ :: rest => parseContext target rest
    else .error .form

/-- How exactly a directive fits a line, if it does; more is more exact. -/
def fit? (d : Directive) (l : Line) : Option Nat :=
  if d.inContext then none
  else match d.target with
    | none => some 0
    | some target =>
      if target.toList.isPrefixOf l.origin.path.toList then some (target.length + 1) else none

/-- Whether a directive keeps a line that it fits. -/
def keeps (d : Directive) (l : Line) : Bool :=
  match d.least with
  | none => false
  | some least => l.reaches least

end Directive

/-- Directives in the order in which they were given. -/
structure Filter where
  directives : List Directive
  deriving DecidableEq, Repr

namespace Filter

/-- A filter of directives; without any it keeps errors. -/
def ofList (directives : List Directive) : Filter :=
  ⟨if directives.isEmpty then [{ least := some .error }] else directives⟩

/-- The parts of a text at its commas, without empty ones. -/
def parts (text : String) : List String := (Text.cut ',' text).filter (· ≠ "")

/-- Reads a filter; one bad directive spoils it. -/
def parse? (text : String) : Option Filter :=
  ((parts text).mapM fun part => (Directive.parse part).toOption).map ofList

/-- Reads a filter and passes over bad directives. -/
def parseLenient (text : String) : Filter :=
  ofList ((parts text).filterMap fun part => (Directive.parse part).toOption)

/-- What is said about the bad directives that are passed over. -/
def complaints (text : String) : List String :=
  (parts text).filterMap fun part =>
    match Directive.parse part with
    | .ok _ => none
    | .error fault => some ("ignoring \x60" ++ part ++ "\x60: " ++ fault.message)

/-- The directive that decides about a line, and how exactly it fits. -/
def deciding (l : Line) : List Directive → Option (Nat × Directive)
  | [] => none
  | d :: rest =>
    match d.fit? l, deciding l rest with
    | some n, some (m, e) => if m < n then some (n, d) else some (m, e)
    | some n, none => some (n, d)
    | none, later => later

/-- Whether a line is kept. -/
def keeps (f : Filter) (l : Line) : Bool :=
  match deciding l f.directives with
  | some (_, d) => d.keeps l
  | none => false

/-- The directives of a program whose settings have this level (`default_directives`). -/
def usual (level : String) : String := level ++ ",sqlx::query=warn,sea_orm=warn"

/-- The filter of a program, and what is said about it: the filter asked for in the environment if
it can be read, else the one of the level in the settings. -/
def ofProgram (asked : Option String) (level : String) : Filter × List String :=
  match asked.bind parse? with
  | some filter => (filter, [])
  | none => (parseLenient (usual level), complaints (usual level))

end Filter

end ProxyMeter.Log
