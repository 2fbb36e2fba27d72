import ProxyMeter.Toml.Draft
import ProxyMeter.Toml.Quoted
import ProxyMeter.Toml.Scalar

/-!
# Reading TOML

A document is a list of lines, each a header, a key with its value, or blank; a comment may end any
of them. Every step takes something off the front of the input, whose length bounds the steps.
-/

namespace ProxyMeter.Toml

/-- The input from the line break that ends a comment, the comment being checked. -/
def afterComment? (cs : List Char) : Option (List Char) :=
  let text := cs.takeWhile (fun c => c ≠ '\n' && c ≠ '\r')
  if text.any isForbidden then none else some (cs.drop text.length)

/-- The input after the end of the line, before which only blanks and a comment may stand. -/
def afterLine? (cs : List Char) : Option (List Char) := do
  let rest ← match skipSpaces cs with
    | '#' :: rest => afterComment? rest
    | rest => some rest
  if rest.isEmpty then some [] else afterBreak? rest

/-- The input after blanks, line breaks and comments, as they may stand inside brackets. -/
def skipLayout? : Nat → List Char → Option (List Char)
  | 0, _ => none
  | fuel + 1, input =>
    match skipBlankLines input with
    | '#' :: rest => (afterComment? rest).bind (skipLayout? fuel)
    | rest => some rest

mutual

/-- A value at the front of the input, with brackets at most `depth` deep. -/
def value? : Nat → Nat → List Char → Option (Value × List Char)
  | 0, _, _ => none
  | fuel + 1, depth, input =>
    match input with
    | '"' :: _ => (string? input).map fun (s, r) => (.string s, r)
    | '\'' :: _ => (string? input).map fun (s, r) => (.string s, r)
    | '[' :: rest =>
      if depth = 0 then none
      else (items? fuel (depth - 1) rest).map fun (vs, r) => (.array vs, r)
    | '\x7b' :: rest =>
      if depth = 0 then none
      else (pairs? fuel (depth - 1) [] rest).map fun (es, r) => (.table (valuesOf es), r)
    | _ =>
      let (front, rest) := literal input
      (scalar? front).map fun v => (v, rest)

/-- The items of an array up to its closing bracket; a comma may stand after the last. -/
def items? : Nat → Nat → List Char → Option (List Value × List Char)
  | 0, _, _ => none
  | fuel + 1, depth, input => do
    match ← skipLayout? (input.length + 1) input with
    | ']' :: rest => some ([], rest)
    | rest =>
      let (v, rest) ← value? fuel depth rest
      match ← skipLayout? (rest.length + 1) rest with
      | ',' :: rest => (items? fuel depth rest).map fun (vs, r) => (v :: vs, r)
      | ']' :: rest => some ([v], rest)
      | _ => none

/-- The pairs of an inline table up to its closing brace; a comma may stand after the last. -/
def pairs? : Nat → Nat → Entries → List Char → Option (Entries × List Char)
  | 0, _, _, _ => none
  | fuel + 1, depth, entries, input => do
    match ← skipLayout? (input.length + 1) input with
    | '\x7d' :: rest => some (entries, rest)
    | rest =>
      let (path, rest) ← keyPath? (rest.length + 1) rest
      match rest with
      | '=' :: rest =>
        let (v, rest) ← value? fuel depth (skipSpaces rest)
        let entries ← entries.assign v path
        match ← skipLayout? (rest.length + 1) rest with
        | ',' :: rest => pairs? fuel depth entries rest
        | '\x7d' :: rest => some (entries, rest)
        | _ => none
      | _ => none

end

/-- The deepest nesting of brackets. -/
def maxDepth : Nat := 80

/-- The path of a header and the input after its closing brackets. -/
def header? (closing : List Char) (cs : List Char) : Option (List String × List Char) := do
  let (path, rest) ← keyPath? (cs.length + 1) cs
  if closing.isPrefixOf rest then some (path, rest.drop closing.length) else none

/-- The tables of the lines of a document, which continue the table at `path`. -/
def lines : Nat → List String → Entries → List Char → Option Entries
  | 0, _, _, _ => none
  | fuel + 1, path, root, input => do
    match skipSpaces input with
    | [] => some root
    | '[' :: '[' :: rest =>
      let (path, rest) ← header? [']', ']'] rest
      let root ← Entries.within (Entries.extendTables (path.getLast?.getD "")) path.dropLast root
      lines fuel path root (← afterLine? rest)
    | '[' :: rest =>
      let (path, rest) ← header? [']'] rest
      let root ← Entries.within (Entries.nameTable (path.getLast?.getD "")) path.dropLast root
      lines fuel path root (← afterLine? rest)
    | c :: rest =>
      if c = '#' ∨ c = '\r' ∨ c = '\n' then
        lines fuel path root (← afterLine? (c :: rest))
      else
        let (key, rest) ← keyPath? (rest.length + 2) (c :: rest)
        match rest with
        | '=' :: rest =>
          let (v, rest) ← value? (rest.length + 1) maxDepth (skipSpaces rest)
          let root ← Entries.within (Entries.assign v key) path root
          lines fuel path root (← afterLine? rest)
        | _ => none

/-- The table that a document is; a byte order mark may stand before it. -/
def parse? (s : String) : Option Value :=
  let cs := match s.toList with
    | '\uFEFF' :: rest => rest
    | cs => cs
  (lines (cs.length + 1) [] [] cs).map fun entries => .table (valuesOf entries)

end ProxyMeter.Toml
