import Mathlib.Algebra.GroupWithZero.Nat
import ProxyMeter.Proofs.Store.Saving

/-!
# All records or none

Both stores take a list of records of any length as a whole, in its order, with the next numbers,
and with the same rows as if they had been given the records one by one. If something stands in the
way, the store is as it was before. In memory the numbers of the rows and the sizes of the batches
stay in step whatever is written and however often writing is switched off.
-/

namespace ProxyMeter.Store

open Traffic

/-- A write that takes all of some records or none of them. A store has rows and the number that it
gave last, and `one` writes a single record. -/
structure AllOrNone {σ : Type} (rows : σ → List Row) (last : σ → Nat) (one : Record → Write σ Unit)
    (write : Write σ Unit) (records : List Record) (s : σ) : Prop where
  /-- If it succeeds, the records become the last rows, with the next numbers. -/
  takes : ∀ s', write.runOn s = (.ok (), s') → ∃ added, rows s' = rows s ++ added ∧
    added.map Row.record = records ∧
    added.map Row.id = List.range' (last s + 1) records.length ∧
    last s' = last s + records.length ∧ ∀ r ∈ added, r.port.toInt = r.record.event.port.toNat
  /-- So they do if they are written one by one. -/
  oneByOne : ∀ s', write.runOn s = (.ok (), s') → ∃ s'',
    (records.forM one).runOn s = (.ok ⟨⟩, s'') ∧ rows s'' = rows s' ∧ last s'' = last s'
  /-- If it fails, everything is as it was. -/
  leaves : ∀ fault s', write.runOn s = (.error fault, s') → s' = s

/-- A write that adds the records with the next numbers if it succeeds. -/
theorem allOrNone_of_numbered {σ : Type} {rows : σ → List Row} {last : σ → Nat}
    {one : Record → Write σ Unit} {write : Write σ Unit} {records : List Record} {s : σ}
    (takes : ∀ s', write.runOn s = (.ok (), s') →
      rows s' = rows s ++ numbered (last s) records ∧ last s' = last s + records.length ∧
        ∃ s'', (records.forM one).runOn s = (.ok ⟨⟩, s'') ∧ rows s'' = rows s' ∧
          last s'' = last s')
    (leaves : ∀ fault s', write.runOn s = (.error fault, s') → s' = s) :
    AllOrNone rows last one write records s where
  takes s' done := by
    obtain ⟨added, next, -⟩ := takes s' done
    exact ⟨_, added, map_record_numbered _ _, map_id_numbered _ _, next, fun r _ => toInt_port r⟩
  oneByOne s' done := (takes s' done).2.2
  leaves := leaves

/-! ### In memory -/

namespace Memory

/-- Records that are taken one by one make the same rows as those that are taken together. -/
theorem runOn_forM_saveOne {m : Memory} (on : m.writesOff = false) (records : List Record) :
    ∃ m', (records.forM saveOne).runOn m = (.ok ⟨⟩, m') ∧
      m'.rows = m.rows ++ numbered m.rows.length records := by
  induction records generalizing m with
  | nil => exact ⟨m, rfl, by simp [numbered]⟩
  | cons r rest ih =>
    have first := runOn_saveBatch [r] m
    rw [if_neg (by simp [on])] at first
    obtain ⟨m', done, rows⟩ := ih (m := { m with
      rows := m.rows ++ numbered m.rows.length [r], batches := m.batches ++ [1] }) on
    refine ⟨m', (Write.runOn_bind_ok first _).trans done, ?_⟩
    rw [rows, ← List.singleton_append (l := rest), numbered_append, List.length_append,
      length_numbered, List.append_assoc]

/-- A store in memory takes all or none. -/
theorem saveBatch_allOrNone (records : List Record) (m : Memory) :
    AllOrNone rows (·.rows.length) saveOne (saveBatch records) records m := by
  have ran := runOn_saveBatch records m
  cases off : m.writesOff with
  | true =>
    rw [off, if_pos rfl] at ran
    refine allOrNone_of_numbered (fun m' done => ?_) fun fault m' failed => ?_
    · cases ran.symm.trans done
    · cases ran.symm.trans failed
      rfl
  | false =>
    rw [off, if_neg Bool.false_ne_true] at ran
    refine allOrNone_of_numbered (fun m' done => ?_) fun fault m' failed => ?_
    · cases ran.symm.trans done
      obtain ⟨m'', one, rows⟩ := runOn_forM_saveOne off records
      exact ⟨rfl, by simp, m'', one, rows, by rw [rows]⟩
    · cases ran.symm.trans failed

/-- The rows are numbered from one, and the batches have the sizes of what became rows. -/
structure InStep (m : Memory) : Prop where
  ids : m.rows.map Row.id = List.range' 1 m.rows.length
  sizes : m.batches.sum = m.rows.length

/-- A write keeps a store in step. -/
theorem InStep.saveBatch {m : Memory} (h : m.InStep) (records : List Record) :
    ((saveBatch records).runOn m).2.InStep := by
  rw [runOn_saveBatch]
  split
  · exact h
  · constructor
    · rw [List.map_append, h.ids, map_id_numbered, List.length_append, length_numbered,
        Nat.add_comm m.rows.length 1, List.range'_append_1]
    · simp [h.sizes]

/-- Every action keeps a store in step. -/
theorem InStep.after {m : Memory} (h : m.InStep) (a : Action) : (m.after a).InStep := by
  cases a with
  | saveOne r => exact h.saveBatch [r]
  | saveBatch records => exact h.saveBatch records
  | switch off => exact ⟨h.ids, h.sizes⟩

/-- Whatever is done with a new store, it is in step. -/
theorem inStep_foldl (actions : List Action) : (actions.foldl Memory.after {}).InStep := by
  induction actions using List.reverseRecOn with
  | nil => exact ⟨rfl, rfl⟩
  | append_singleton actions a ih =>
    rw [List.foldl_append]
    exact ih.after a

end Memory

/-! ### In a database -/

namespace Connection

/-- The rows that are committed. -/
def rows (c : Connection) : List Row := (c.committed.table.getD {}).rows

/-- The number that was given last. -/
def lastId (c : Connection) : Nat := (c.committed.table.getD {}).lastId

/-- The rows of a table that has grown. -/
theorem rows_grown {records : List Record} {d : Database}
    (able : records = [] ∨ d.table.isSome = true) :
    rows ⟨d.grown records, none⟩ = rows ⟨d, none⟩ ++ numbered (lastId ⟨d, none⟩) records ∧
      lastId ⟨d.grown records, none⟩ = lastId ⟨d, none⟩ + records.length := by
  obtain rfl | table := able
  · rw [Database.grown_nil]
    simp [numbered]
  · obtain ⟨t, found⟩ := Option.isSome_iff_exists.mp table
    simp [rows, lastId, Database.grown, found, Table.grown]

/-- A database takes all or none, whatever statements are refused. -/
theorem saveBatch_allOrNone (trouble : Trouble) (records : List Record) (d : Database) :
    AllOrNone rows lastId (saveOne none) (saveBatch trouble records) records ⟨d, none⟩ := by
  obtain ⟨ran, able⟩ | ⟨⟨fault, -, ran⟩, -⟩ := runOn_saveBatch trouble records d
  · have able : records = [] ∨ d.table.isSome = true := able.imp_right And.left
    refine allOrNone_of_numbered (fun c done => ?_) fun fault c failed => ?_
    · cases ran.symm.trans done
      obtain ⟨added, next⟩ := rows_grown able
      refine ⟨added, next, ⟨d.grown records, none⟩, ?_, rfl, rfl⟩
      obtain rfl | table := able
      · rw [Database.grown_nil]
        rfl
      · exact runOn_forM_saveOne table records
    · cases ran.symm.trans failed
  · refine allOrNone_of_numbered (fun c done => ?_) fun fault' c failed => ?_
    · cases ran.symm.trans done
    · cases ran.symm.trans failed
      rfl

end Connection

/-! ### Both stores -/

/-- What is known of saving some records, and of a store in memory after some actions. -/
structure Saves (records : List Record) (actions : List Memory.Action) : Prop where
  memory : ∀ m, AllOrNone Memory.rows (·.rows.length) Memory.saveOne (Memory.saveBatch records)
    records m
  /-- In memory records are refused if writing is off, and for no other reason. -/
  inMemory : ∀ m, (∃ m', (Memory.saveBatch records).runOn m = (.ok (), m')) ↔ m.writesOff = false
  database : ∀ trouble d, AllOrNone Connection.rows Connection.lastId (Connection.saveOne none)
    (Connection.saveBatch trouble records) records ⟨d, none⟩
  /-- A database refuses records if there is no table or a statement is refused, at whatever chunk,
  and for no other reason. -/
  inDatabase : ∀ trouble d,
    (∃ c, (Connection.saveBatch trouble records).runOn ⟨d, none⟩ = (.ok (), c)) ↔
      Connection.Spares trouble records d
  /-- No transaction is left open. -/
  closed : ∀ trouble d,
    ((Connection.saveBatch trouble records).runOn ⟨d, none⟩).2.pending = none
  /-- No statement inserts more records than it may. -/
  statements : ∀ chunk ∈ chunks chunkSize records, chunk ≠ [] ∧ chunk.length ≤ chunkSize
  /-- No records change no row. -/
  nothing : records = [] → (∀ m, ((Memory.saveBatch records).runOn m).2.rows = m.rows) ∧
    ∀ trouble d, (Connection.saveBatch trouble records).runOn ⟨d, none⟩ = (.ok (), ⟨d, none⟩)
  inStep : (actions.foldl Memory.after {}).InStep

/-- However many records there are and whatever is in a store, they are saved all or not at all, in
memory and in a database. -/
theorem saves (records : List Record) (actions : List Memory.Action) : Saves records actions where
  memory := Memory.saveBatch_allOrNone records
  inMemory m := by
    rw [Memory.runOn_saveBatch]
    cases m.writesOff <;> simp
  database trouble d := Connection.saveBatch_allOrNone trouble records d
  inDatabase trouble d := by
    obtain ⟨ran, able⟩ | ⟨⟨fault, -, ran⟩, unable⟩ :=
      Connection.runOn_saveBatch trouble records d
    · exact iff_of_true ⟨_, ran⟩ able
    · exact iff_of_false (by rw [ran]; exact nofun) unable
  closed trouble d := by
    obtain ⟨ran, -⟩ | ⟨⟨fault, -, ran⟩, -⟩ := Connection.runOn_saveBatch trouble records d
    · rw [ran]
    · rw [ran]
  statements := length_le_of_mem_chunksAfter [] records (by decide)
  nothing := by
    rintro rfl
    refine ⟨fun m => ?_, fun trouble d => rfl⟩
    rw [Memory.runOn_saveBatch]
    cases m.writesOff <;> simp [numbered]
  inStep := Memory.inStep_foldl actions

end ProxyMeter.Store
