import ProxyMeter.Store.Table
import ProxyMeter.Store.Write

/-!
# Transactions

A connection to a database works on what has been committed, or in a transaction on a copy of it. A
list of records is written in a transaction, chunk by chunk; if anything in it fails, it is rolled
back.
-/

namespace ProxyMeter.Store

open Traffic

/-- How many records one statement inserts at most (`INSERT_CHUNK_SIZE`). -/
def chunkSize : Nat := 100

section

variable {α : Type}

/-- A list in chunks of `size` members, of which the first goes on with `chunk`. -/
def chunksAfter (size : Nat) (chunk : List α) : List α → List (List α)
  | [] => if chunk.isEmpty then [] else [chunk]
  | x :: rest =>
    if chunk.length + 1 < size then chunksAfter size (chunk ++ [x]) rest
    else (chunk ++ [x]) :: chunksAfter size [] rest

/-- A list in chunks of `size` members; the last of them may have fewer. -/
def chunks (size : Nat) (xs : List α) : List (List α) := chunksAfter size [] xs

end

/-- A connection to a database: what has been committed, and the transaction that is open. -/
structure Connection where
  committed : Database
  /-- What an open transaction has made of the database. -/
  pending : Option Database := none
  deriving DecidableEq, Repr

namespace Connection

/-- Opens a transaction. -/
def begin (c : Connection) : Except Fault Connection :=
  .ok { c with pending := some c.committed }

/-- Inserts records in the open transaction; if none is open, they are committed at once. -/
def insert (records : List Record) (c : Connection) : Except Fault Connection :=
  match c.pending with
  | some d => (d.insert records).map fun d => { c with pending := some d }
  | none => (c.committed.insert records).map fun d => { c with committed := d }

/-- Commits the open transaction. -/
def commit (c : Connection) : Except Fault Connection :=
  .ok { committed := c.pending.getD c.committed }

/-- Gives up the open transaction. -/
def rollback (c : Connection) : Connection := { c with pending := none }

/-- Carries out a statement, unless it is refused. -/
def execute (refusal : Option Fault) (statement : Connection → Except Fault Connection) :
    Write Connection Unit := do
  match refusal with
  | some fault => throw fault
  | none =>
    match statement (← get) with
    | .ok c => set c
    | .error fault => throw fault

end Connection

/-- The statements of a write that are refused, for want of room or whatever else, and why. -/
structure Trouble where
  begin : Option Fault := none
  /-- The chunks are counted from zero. -/
  insert : Nat → Option Fault := fun _ => none
  commit : Option Fault := none

namespace Connection

/-- Inserts one chunk after the other; `k` chunks have been inserted before. -/
def insertAll (trouble : Trouble) : Nat → List (List Record) → Write Connection Unit
  | _, [] => return
  | k, chunk :: rest => do
    execute (trouble.insert k) (insert chunk)
    insertAll trouble (k + 1) rest

/-- Inserts records in a transaction that has begun, and commits it. -/
def transact (trouble : Trouble) (records : List Record) : Write Connection Unit := do
  insertAll trouble 0 (chunks chunkSize records)
  execute trouble.commit commit

/-- Writes records in a transaction; one that fails is rolled back (`SqliteRepository.save_batch`).
No records need none. -/
def saveBatch (trouble : Trouble) (records : List Record) : Write Connection Unit := do
  if records.isEmpty then return
  else
    execute trouble.begin begin
    try
      transact trouble records
    catch fault =>
      modify rollback
      throw fault

/-- Writes one record (`SqliteRepository.save_one`). -/
def saveOne (refusal : Option Fault) (r : Record) : Write Connection Unit :=
  execute refusal (insert [r])

end Connection

end ProxyMeter.Store
