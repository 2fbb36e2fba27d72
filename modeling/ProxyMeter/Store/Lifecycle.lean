import ProxyMeter.Store.Database
import ProxyMeter.Store.Location

/-!
# The life cycle of a database

An open database is called one call after the other: records are saved, its table is taken down and
set up again, and it is closed and opened at its path. All calls are logged with their success.
-/

namespace ProxyMeter.Store

open Traffic

/-- What is done with a database. -/
inductive Call where
  /-- Records are saved: `save_one` and `save_batch`. -/
  | save (call : SaveCall)
  /-- The table is set up: `Migrator` goes up. -/
  | up
  /-- The table is taken down: `Migrator` goes down. -/
  | down
  /-- The database is closed and opened at its path: `open_database`. -/
  | reopen
  deriving DecidableEq, Repr

namespace Call

/-- The records that are to be saved. -/
def records : Call → List Record
  | save call => call.records
  | _ => []

/-- Whether a call is about the table itself. -/
def isSchema : Call → Bool
  | up | down | reopen => true
  | save _ => false

/-- Whether a call takes the table down. -/
def isDown : Call → Bool
  | down => true
  | _ => false

end Call

/-- Why a call fails. -/
inductive CallFault where
  | store (fault : Fault)
  | opening (fault : OpeningFault)

/-- Whether the database at a path is kept in a file when it is closed. Some names stand for a
database that is in no file, or are read as more than a name. -/
def isKept (path : String) : Bool :=
  match Location.decode? (Location.address path) with
  | some (file, _) => file ≠ "" && file ≠ ":memory:" && !file.startsWith "file:"
  | none => false

/-- An open database, and the disk that it is on. -/
structure OpenDatabase where
  disk : Disk
  database : Database

namespace OpenDatabase

/-- Records are saved. -/
def save (call : SaveCall) (o : OpenDatabase) : Except CallFault OpenDatabase :=
  match call.perform o.database with
  | .ok database => .ok { o with database }
  | .error fault => .error (.store fault)

/-- The database at a path is closed and opened. The table is set up if it is not there. -/
def reopen (path : String) (o : OpenDatabase) : Except CallFault OpenDatabase :=
  match Location.openAt o.disk path with
  | .ok disk => .ok ⟨disk, Database.migrateUp (if isKept path then o.database else {})⟩
  | .error fault => .error (.opening fault)

/-- What a call gives. -/
def perform (path : String) (o : OpenDatabase) : Call → Except CallFault OpenDatabase
  | .save call => o.save call
  | .up => .ok { o with database := o.database.migrateUp }
  | .down => .ok { o with database := o.database.migrateDown }
  | .reopen => o.reopen path

end OpenDatabase

/-- A call that was made, and whether it succeeded. -/
structure LoggedCall where
  call : Call
  done : Bool

/-- An open database with the log of all calls, the latest last. -/
structure Lifecycle where
  opened : OpenDatabase
  log : List LoggedCall := []

namespace Lifecycle

/-- A call is made. One that fails changes nothing. -/
def call (path : String) (l : Lifecycle) (c : Call) : Lifecycle :=
  match l.opened.perform path c with
  | .ok opened => ⟨opened, l.log ++ [⟨c, true⟩]⟩
  | .error _ => ⟨l.opened, l.log ++ [⟨c, false⟩]⟩

/-- A database is made at its path on a disk, and calls are made one after the other. -/
def run (path : String) (disk : Disk) (calls : List Call) : Lifecycle :=
  calls.foldl (call path) { opened := ⟨disk, Database.migrateUp {}⟩ }

end Lifecycle

end ProxyMeter.Store
