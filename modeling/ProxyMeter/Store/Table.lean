import ProxyMeter.Store.Fault
import ProxyMeter.Traffic.Record

/-!
# Tables of rows

A database holds one table of rows, or none before the table has been set up and after it has been
taken down. A table numbers its rows from one.
-/

namespace ProxyMeter.Store

open Traffic

/-- Records as rows numbered after `last`. -/
def numbered (last : Nat) : List Record → List Row
  | [] => []
  | r :: rest => ⟨last + 1, r⟩ :: numbered (last + 1) rest

/-- A table of rows and the last number that it gave to one. -/
structure Table where
  rows : List Row := []
  lastId : Nat := 0
  deriving DecidableEq, Repr

/-- A table with more rows. -/
def Table.grown (records : List Record) (t : Table) : Table :=
  { rows := t.rows ++ numbered t.lastId records, lastId := t.lastId + records.length }

/-- A database: whether the change that sets up the table is on record, and the table. -/
structure Database where
  setUp : Bool := false
  table : Option Table := none
  deriving DecidableEq, Repr

namespace Database

/-- Sets up the table unless that is on record (`Migration.up`). -/
def migrateUp (d : Database) : Database :=
  if d.setUp then d else { setUp := true, table := some (d.table.getD {}) }

/-- Takes the table down if its set-up is on record (`Migration.down`). -/
def migrateDown (d : Database) : Database :=
  if d.setUp then { setUp := false, table := none } else d

/-- Inserts records as rows of the table. -/
def insert (records : List Record) (d : Database) : Except Fault Database :=
  match d.table with
  | none => .error .noTableToWrite
  | some t => .ok { d with table := some (t.grown records) }

end Database

end ProxyMeter.Store
