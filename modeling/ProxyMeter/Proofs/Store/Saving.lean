import Mathlib.Data.List.Range
import ProxyMeter.Store.Database

/-!
# Saving records

A list of records is saved as a whole or not at all. In memory the records become rows one by one
when writing is on. In a database they are inserted chunk by chunk in a transaction, and whatever
statement of it is refused, everything is as it was before.
-/

namespace ProxyMeter.Store

open Traffic

/-! ### Numbering -/

@[simp]
theorem length_numbered (last : Nat) (records : List Record) :
    (numbered last records).length = records.length := by
  induction records generalizing last with
  | nil => rfl
  | cons r rest ih => simp [numbered, ih]

/-- Numbers go on where they have got to. -/
theorem numbered_append (last : Nat) (records more : List Record) :
    numbered last (records ++ more) =
      numbered last records ++ numbered (last + records.length) more := by
  induction records generalizing last with
  | nil => rfl
  | cons r rest ih =>
    rw [List.cons_append, numbered, ih, numbered, List.cons_append, List.length_cons,
      Nat.add_assoc, Nat.add_comm 1]

/-- Numbering leaves the records as they are. -/
@[simp]
theorem map_record_numbered (last : Nat) (records : List Record) :
    (numbered last records).map Row.record = records := by
  induction records generalizing last with
  | nil => rfl
  | cons r rest ih => simp [numbered, ih]

/-- Numbers are given one after the other. -/
theorem map_id_numbered (last : Nat) (records : List Record) :
    (numbered last records).map Row.id = List.range' (last + 1) records.length := by
  induction records generalizing last with
  | nil => rfl
  | cons r rest ih => simp [numbered, ih, List.range'_succ]

/-- Later rows have greater numbers. -/
theorem pairwise_numbered (last : Nat) (records : List Record) :
    (numbered last records).Pairwise fun a b => a.id < b.id := by
  have least (last : Nat) (records : List Record) : ∀ r ∈ numbered last records, last < r.id := by
    induction records generalizing last with
    | nil => simp [numbered]
    | cons r rest ih =>
      simp only [numbered, List.mem_cons, forall_eq_or_imp]
      exact ⟨by omega, fun r hr => by have := ih (last + 1) r hr; omega⟩
  induction records generalizing last with
  | nil => exact List.Pairwise.nil
  | cons r rest ih => exact List.pairwise_cons.mpr ⟨least (last + 1) rest, ih (last + 1)⟩

/-- The wider word of a row has the port of its record. -/
theorem toInt_port (r : Row) : r.port.toInt = r.record.event.port.toNat := by
  have small := r.record.event.port.toNat_lt
  exact Int32.toInt_ofNat_of_lt (by omega)

/-! ### Writes -/

namespace Write

variable {σ α β : Type} {s s' : σ}

/-- What is written after a write that succeeded begins with the store that this has left. -/
theorem runOn_bind_ok {x : Write σ α} {a : α} (h : x.runOn s = (.ok a, s')) (f : α → Write σ β) :
    (x >>= f).runOn s = (f a).runOn s' := by
  rw [runOn] at h
  rw [runOn, ExceptT.run_bind, StateT.run_bind, h]
  rfl

/-- Nothing is written after a write that failed. -/
theorem runOn_bind_error {x : Write σ α} {fault : Fault} (h : x.runOn s = (.error fault, s'))
    (f : α → Write σ β) : (x >>= f).runOn s = (.error fault, s') := by
  rw [runOn] at h
  rw [runOn, ExceptT.run_bind, StateT.run_bind, h]
  rfl

/-- A fault that does not occur is not handled. -/
theorem runOn_tryCatch_ok {x : Write σ α} {a : α} (h : x.runOn s = (.ok a, s'))
    (handle : Fault → Write σ α) : (tryCatch x handle).runOn s = (.ok a, s') := by
  rw [runOn] at h
  rw [runOn, ExceptT.run_tryCatch, StateT.run_bind, h]
  rfl

/-- A fault is handled on the store that it has left. -/
theorem runOn_tryCatch_error {x : Write σ α} {fault : Fault} (h : x.runOn s = (.error fault, s'))
    (handle : Fault → Write σ α) : (tryCatch x handle).runOn s = (handle fault).runOn s' := by
  rw [runOn] at h
  rw [runOn, ExceptT.run_tryCatch, StateT.run_bind, h]
  rfl

end Write

/-! ### Memory -/

namespace Memory

/-- Records that become rows one after the other get the next numbers. -/
theorem pushAll_eq (records : List Record) (m : Memory) :
    m.pushAll records = { m with rows := m.rows ++ numbered m.rows.length records } := by
  unfold pushAll
  induction records generalizing m with
  | nil => simp [numbered]
  | cons r rest ih =>
    rw [List.foldl_cons, ih]
    simp [push, numbered]

/-- A store in memory takes all records if writing is on, and none if it is off. -/
theorem runOn_saveBatch (records : List Record) (m : Memory) : (saveBatch records).runOn m =
    if m.writesOff then (.error .writesOff, m)
    else (.ok (), { m with
      rows := m.rows ++ numbered m.rows.length records
      batches := m.batches ++ [records.length] }) := by
  have asked : (get : Write Memory Memory).runOn m = (.ok m, m) := rfl
  rw [saveBatch, Write.runOn_bind_ok asked]
  by_cases off : m.writesOff = true
  · rw [if_pos off, if_pos off]
    rfl
  · rw [if_neg off, if_neg off, pushAll_eq]
    rfl

/-- What taking records gives. -/
theorem save_eq (records : List Record) (m : Memory) : save records m =
    if m.writesOff then .error .writesOff
    else .ok { m with
      rows := m.rows ++ numbered m.rows.length records
      batches := m.batches ++ [records.length] } := by
  rw [save, Write.outcome, runOn_saveBatch]
  cases m.writesOff <;> rfl

/-- One record is taken as a list of one is. -/
theorem perform_eq (call : SaveCall) (m : Memory) : call.perform m = save call.records m := by
  cases call with
  | one | batch => rfl

end Memory

/-! ### Chunks -/

section Chunks

variable {α : Type} {size : Nat}

/-- Nothing gets lost between the chunks. -/
theorem flatten_chunksAfter (chunk xs : List α) :
    (chunksAfter size chunk xs).flatten = chunk ++ xs := by
  induction xs generalizing chunk with
  | nil => cases chunk <;> simp [chunksAfter]
  | cons x xs ih =>
    rw [chunksAfter]
    split
    · rw [ih, List.append_assoc, List.singleton_append]
    · rw [List.flatten_cons, ih, List.append_assoc, List.singleton_append, List.nil_append]

/-- The chunks of a list are the list. -/
theorem flatten_chunks (size : Nat) (xs : List α) : (chunks size xs).flatten = xs :=
  flatten_chunksAfter [] xs

/-- No chunk is longer than it may be. -/
theorem length_le_of_mem_chunksAfter (chunk xs : List α) (short : chunk.length < size) :
    ∀ c ∈ chunksAfter size chunk xs, c ≠ [] ∧ c.length ≤ size := by
  induction xs generalizing chunk with
  | nil =>
    cases chunk with
    | nil => simp [chunksAfter]
    | cons x rest => simpa [chunksAfter] using Nat.le_of_lt short
  | cons x xs ih =>
    rw [chunksAfter]
    split
    · next room =>
      exact ih _ (by simpa using room)
    · intro c member
      cases member with
      | head => simpa using Nat.succ_le_of_lt short
      | tail _ later => exact ih [] (Nat.zero_lt_of_lt short) c later

end Chunks

/-! ### Transactions -/

namespace Table

/-- A table grows by two lists as by one. -/
theorem grown_append (records more : List Record) (t : Table) :
    t.grown (records ++ more) = (t.grown records).grown more := by
  simp [grown, numbered_append, Nat.add_assoc]

@[simp]
theorem grown_nil (t : Table) : t.grown [] = t := by
  simp [grown, numbered]

end Table

namespace Database

/-- A database whose table has more rows, if there is one. -/
def grown (records : List Record) (d : Database) : Database :=
  { d with table := d.table.map (Table.grown records) }

theorem grown_append (records more : List Record) (d : Database) :
    d.grown (records ++ more) = (d.grown records).grown more := by
  obtain ⟨setUp, table⟩ := d
  cases table <;> simp [grown, Table.grown_append]

@[simp]
theorem grown_nil (d : Database) : d.grown [] = d := by
  obtain ⟨setUp, table⟩ := d
  cases table <;> simp [grown]

theorem isSome_table_grown (records : List Record) (d : Database) :
    (d.grown records).table.isSome = d.table.isSome := by
  simp [grown]

/-- Records are inserted if there is a table. -/
theorem insert_eq (records : List Record) (d : Database) : d.insert records =
    if d.table.isSome then .ok (d.grown records) else .error .noTableToWrite := by
  cases h : d.table <;> simp [insert, grown, h]

end Database

namespace Connection

variable {c c' : Connection} {d d' : Database}

/-- A statement that is not refused is carried out. -/
theorem runOn_execute_of_ok {statement : Connection → Except Fault Connection}
    (done : statement c = .ok c') : (execute none statement).runOn c = (.ok (), c') := by
  have asked : (get : Write Connection Connection).runOn c = (.ok c, c) := rfl
  rw [execute, Write.runOn_bind_ok asked, done]
  rfl

/-- A statement that fails changes nothing. -/
theorem runOn_execute_of_error {statement : Connection → Except Fault Connection} {fault : Fault}
    (failed : statement c = .error fault) :
    (execute none statement).runOn c = (.error fault, c) := by
  have asked : (get : Write Connection Connection).runOn c = (.ok c, c) := rfl
  rw [execute, Write.runOn_bind_ok asked, failed]
  rfl

/-- In a transaction records are inserted if there is a table. -/
theorem insert_pending (records : List Record) (d d' : Database) :
    insert records ⟨d, some d'⟩ =
      if d'.table.isSome then .ok ⟨d, some (d'.grown records)⟩ else .error .noTableToWrite := by
  show (d'.insert records).map _ = _
  rw [Database.insert_eq]
  split <;> rfl

/-- Nothing is refused of the chunks from `k` on. -/
def Lets (trouble : Trouble) (k : Nat) (chunks : List (List Record)) : Prop :=
  ∀ i < chunks.length, trouble.insert (k + i) = none

theorem lets_cons_iff {trouble : Trouble} {k : Nat} {chunk : List Record}
    {rest : List (List Record)} : Lets trouble k (chunk :: rest) ↔
      trouble.insert k = none ∧ Lets trouble (k + 1) rest := by
  rw [Lets, Lets, List.length_cons, Nat.forall_lt_succ_left, Nat.add_zero]
  simp only [Nat.add_right_comm k, Nat.add_assoc]

/-- A fault that a write may end with: a statement is refused for it, or there is no table. -/
def Ends (trouble : Trouble) (fault : Fault) : Prop :=
  fault = .noTableToWrite ∨ trouble.begin = some fault ∨ (∃ k, trouble.insert k = some fault) ∨
    trouble.commit = some fault

/-- In a transaction all chunks are inserted, or one of them is not. -/
theorem runOn_insertAll (trouble : Trouble) (k : Nat) (chunks : List (List Record))
    (d d' : Database) :
    ((insertAll trouble k chunks).runOn ⟨d, some d'⟩ =
          (.ok (), ⟨d, some (d'.grown chunks.flatten)⟩) ∧
        Lets trouble k chunks ∧ (chunks = [] ∨ d'.table.isSome = true)) ∨
      (∃ fault left, Ends trouble fault ∧
          (insertAll trouble k chunks).runOn ⟨d, some d'⟩ = (.error fault, ⟨d, left⟩)) ∧
        ¬ (Lets trouble k chunks ∧ (chunks = [] ∨ d'.table.isSome = true)) := by
  induction chunks generalizing k d' with
  | nil =>
    refine .inl ⟨?_, nofun, .inl rfl⟩
    rw [List.flatten_nil, Database.grown_nil]
    rfl
  | cons chunk rest ih =>
    rw [lets_cons_iff]
    cases refusal : trouble.insert k with
    | some fault =>
      have stopped : (execute (trouble.insert k) (insert chunk)).runOn ⟨d, some d'⟩ =
          (.error fault, ⟨d, some d'⟩) := by
        rw [refusal]
        rfl
      exact .inr ⟨⟨fault, some d', .inr (.inr (.inl ⟨k, refusal⟩)),
        Write.runOn_bind_error stopped _⟩, by simp⟩
    | none =>
      by_cases table : d'.table.isSome = true
      · have inserted : (execute (trouble.insert k) (insert chunk)).runOn ⟨d, some d'⟩ =
            (.ok (), ⟨d, some (d'.grown chunk)⟩) := by
          rw [refusal]
          exact runOn_execute_of_ok (by rw [insert_pending, if_pos table])
        have goes := ih (k + 1) (d'.grown chunk)
        rw [Database.isSome_table_grown] at goes
        rw [insertAll, Write.runOn_bind_ok inserted, List.flatten_cons, Database.grown_append]
        simpa [table] using goes
      · have stopped : (execute (trouble.insert k) (insert chunk)).runOn ⟨d, some d'⟩ =
            (.error .noTableToWrite, ⟨d, some d'⟩) := by
          rw [refusal]
          exact runOn_execute_of_error (by rw [insert_pending, if_neg table])
        exact .inr ⟨⟨_, some d', .inl rfl, Write.runOn_bind_error stopped _⟩, by simp [table]⟩

/-- Nothing stands in the way of some records: there is none, or there is a table for them and no
statement is refused. -/
def Spares (trouble : Trouble) (records : List Record) (d : Database) : Prop :=
  records = [] ∨ d.table.isSome = true ∧ trouble.begin = none ∧
    Lets trouble 0 (chunks chunkSize records) ∧ trouble.commit = none

/-- The statements of a transaction are carried out, or one of them is not. -/
theorem runOn_transact (trouble : Trouble) {records : List Record} (d : Database)
    (some : records ≠ []) :
    ((transact trouble records).runOn ⟨d, .some d⟩ = (.ok (), ⟨d.grown records, none⟩) ∧
        d.table.isSome = true ∧ Lets trouble 0 (chunks chunkSize records) ∧
          trouble.commit = none) ∨
      (∃ fault left, Ends trouble fault ∧
          (transact trouble records).runOn ⟨d, .some d⟩ = (.error fault, ⟨d, left⟩)) ∧
        ¬ (d.table.isSome = true ∧ Lets trouble 0 (chunks chunkSize records) ∧
          trouble.commit = none) := by
  have cut : chunks chunkSize records ≠ [] := fun none => some <| by
    rw [← flatten_chunks chunkSize records, none, List.flatten_nil]
  obtain ⟨inserted, lets, table⟩ | ⟨⟨fault, left, ends, stopped⟩, stops⟩ :=
    runOn_insertAll trouble 0 (chunks chunkSize records) d d
  · replace table := table.resolve_left cut
    rw [flatten_chunks] at inserted
    rw [transact, Write.runOn_bind_ok inserted]
    cases refusal : trouble.commit with
    | none => exact .inl ⟨runOn_execute_of_ok rfl, table, lets, rfl⟩
    | some fault => exact .inr ⟨⟨fault, _, .inr (.inr (.inr refusal)), rfl⟩, by simp⟩
  · exact .inr ⟨⟨fault, left, ends, Write.runOn_bind_error stopped _⟩, fun ⟨table, lets, _⟩ =>
      stops ⟨lets, .inr table⟩⟩

/-- A database takes all records if nothing stands in the way, and is as it was if something
does. -/
theorem runOn_saveBatch (trouble : Trouble) (records : List Record) (d : Database) :
    ((saveBatch trouble records).runOn ⟨d, none⟩ = (.ok (), ⟨d.grown records, none⟩) ∧
        Spares trouble records d) ∨
      (∃ fault, Ends trouble fault ∧
          (saveBatch trouble records).runOn ⟨d, none⟩ = (.error fault, ⟨d, none⟩)) ∧
        ¬ Spares trouble records d := by
  by_cases empty : records = []
  · subst empty
    refine .inl ⟨?_, .inl rfl⟩
    rw [Database.grown_nil]
    rfl
  rw [saveBatch, if_neg (by simpa using empty), Spares, or_iff_right empty]
  cases refusal : trouble.begin with
  | some fault => exact .inr ⟨⟨fault, .inr (.inl refusal), rfl⟩, by simp⟩
  | none =>
    have begun : (execute none begin).runOn ⟨d, none⟩ = (.ok (), ⟨d, some d⟩) :=
      runOn_execute_of_ok rfl
    rw [Write.runOn_bind_ok begun]
    obtain ⟨done, able⟩ | ⟨⟨fault, left, ends, stopped⟩, unable⟩ := runOn_transact trouble d empty
    · exact .inl ⟨Write.runOn_tryCatch_ok done _, able.1, rfl, able.2⟩
    · refine .inr ⟨⟨fault, ends, (Write.runOn_tryCatch_error stopped _).trans rfl⟩, ?_⟩
      exact fun ⟨table, _, able⟩ => unable ⟨table, able⟩

/-- A database takes a record if there is a table for it. -/
theorem runOn_saveOne (r : Record) (d : Database) : (saveOne none r).runOn ⟨d, none⟩ =
    if d.table.isSome then (.ok (), ⟨d.grown [r], none⟩)
    else (.error .noTableToWrite, ⟨d, none⟩) := by
  have inserts : insert [r] ⟨d, none⟩ =
      if d.table.isSome then .ok ⟨d.grown [r], none⟩ else .error .noTableToWrite := by
    show (d.insert [r]).map _ = _
    rw [Database.insert_eq]
    split <;> rfl
  by_cases table : d.table.isSome = true
  · rw [if_pos table] at inserts ⊢
    exact runOn_execute_of_ok inserts
  · rw [if_neg table] at inserts ⊢
    exact runOn_execute_of_error inserts

/-- Records that are saved one by one make the same database as those that are saved together. -/
theorem runOn_forM_saveOne {d : Database} (table : d.table.isSome = true)
    (records : List Record) :
    (records.forM (saveOne none)).runOn ⟨d, none⟩ = (.ok ⟨⟩, ⟨d.grown records, none⟩) := by
  induction records generalizing d with
  | nil =>
    rw [Database.grown_nil]
    rfl
  | cons r rest ih =>
    have first := runOn_saveOne r d
    rw [if_pos table] at first
    have more := ih (d := d.grown [r]) (by rwa [Database.isSome_table_grown])
    rw [← Database.grown_append] at more
    exact (Write.runOn_bind_ok first _).trans more

end Connection

/-- What saving records gives when nothing is refused. -/
theorem Database.save_eq (records : List Record) (d : Database) : save records d =
    if records = [] then .ok d
    else if d.table.isSome then .ok (d.grown records)
    else .error .noTableToWrite := by
  by_cases empty : records = []
  · subst empty
    rfl
  rw [save, Write.outcome, if_neg empty]
  obtain ⟨saved, able⟩ | ⟨⟨fault, ends, failed⟩, unable⟩ := Connection.runOn_saveBatch {} records d
  · rw [saved, if_pos (able.resolve_left empty).1]
    rfl
  · have none : fault = .noTableToWrite := by
      obtain ends | ends | ⟨k, ends⟩ | ends := ends
      · exact ends
      · cases ends
      · cases ends
      · cases ends
    have absent (table : d.table.isSome = true) : False :=
      unable (.inr ⟨table, rfl, fun _ _ => rfl, rfl⟩)
    rw [failed, none, if_neg absent]
    rfl

/-- A statement that inserts one record gives what a transaction with this record alone gives. -/
theorem Database.perform_eq (call : SaveCall) (d : Database) :
    call.perform d = save call.records d := by
  cases call with
  | batch => rfl
  | one r =>
    show saveOne r d = _
    rw [SaveCall.records, save_eq, if_neg (List.cons_ne_nil r []), saveOne, Write.outcome,
      Connection.runOn_saveOne]
    cases d.table.isSome with
    | true => rfl
    | false => rfl

end ProxyMeter.Store
