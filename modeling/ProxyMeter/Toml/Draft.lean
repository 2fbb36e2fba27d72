import ProxyMeter.Toml.Value

/-!
# Tables under construction

A document builds its tables bit by bit, and what may still be added to a table depends on how it
came about. A header names a table once. A table that only stands on the way to a named one is
implied: a later header may name it, but no dotted key may put a value right into it. A table that
a dotted key made takes further dotted keys, but no header. Values, and so inline tables, are
closed.
-/

namespace ProxyMeter.Toml

/-- How a table came about. -/
inductive Origin where
  | implied
  | named
  | dotted
  deriving DecidableEq, Repr

/-- What a key has in a document so far. -/
inductive Draft where
  | closed (value : Value)
  | table (origin : Origin) (entries : List (String × Draft))
  /-- A list of tables, which further headers make longer. -/
  | tables (items : List (List (String × Draft)))

/-- The keys of a table under construction. -/
abbrev Entries := List (String × Draft)

namespace Entries

/-- The entries with another draft under a key that they have. -/
def replace (entries : Entries) (key : String) (draft : Draft) : Entries :=
  entries.map fun e => if e.1 = key then (key, draft) else e

/-- The entries with a draft under a key that they do not have. -/
def append (entries : Entries) (key : String) (draft : Draft) : Entries :=
  entries ++ [(key, draft)]

/-- Changes the table at the end of a path of headers; the last item of a list of tables stands for
the list. -/
def within (change : Entries → Option Entries) : List String → Entries → Option Entries
  | [], entries => change entries
  | key :: path, entries =>
    match entries.lookup key with
    | none => (within change path []).map fun inner => entries.append key (.table .implied inner)
    | some (.table origin inner) =>
      (within change path inner).map fun inner => entries.replace key (.table origin inner)
    | some (.tables items) =>
      match items.getLast? with
      | none => none
      | some inner => (within change path inner).map fun inner =>
        entries.replace key (.tables (items.dropLast ++ [inner]))
    | some (.closed _) => none

/-- Names the table under a key. -/
def nameTable (key : String) (entries : Entries) : Option Entries :=
  match entries.lookup key with
  | none => some (entries.append key (.table .named []))
  | some (.table .implied inner) => some (entries.replace key (.table .named inner))
  | some _ => none

/-- Makes the list of tables under a key one longer. -/
def extendTables (key : String) (entries : Entries) : Option Entries :=
  match entries.lookup key with
  | none => some (entries.append key (.tables [[]]))
  | some (.tables items) => some (entries.replace key (.tables (items ++ [[]])))
  | some _ => none

/-- Puts a value under a dotted key. -/
def assign (value : Value) : List String → Entries → Option Entries
  | [], _ => none
  | [key], entries =>
    if (entries.lookup key).isSome then none else some (entries.append key (.closed value))
  | key :: path, entries =>
    match entries.lookup key with
    | none => (assign value path []).map fun inner => entries.append key (.table .dotted inner)
    | some (.table origin inner) =>
      if origin = .named ∨ (origin = .implied ∧ path.length = 1) then none
      else (assign value path inner).map fun inner => entries.replace key (.table origin inner)
    | some _ => none

end Entries

mutual

/-- The value that a draft has come to. -/
def Draft.toValue : Draft → Value
  | .closed value => value
  | .table _ entries => .table (valuesOf entries)
  | .tables items => .array (tablesOf items)

/-- The values of entries. -/
def valuesOf : List (String × Draft) → List (String × Value)
  | [] => []
  | (key, draft) :: rest => (key, draft.toValue) :: valuesOf rest

/-- The values of a list of tables. -/
def tablesOf : List (List (String × Draft)) → List Value
  | [] => []
  | entries :: rest => .table (valuesOf entries) :: tablesOf rest

end

end ProxyMeter.Toml
