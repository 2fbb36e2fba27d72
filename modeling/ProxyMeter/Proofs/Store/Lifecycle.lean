import Mathlib.Data.List.DropRight
import ProxyMeter.Proofs.Store.Database
import ProxyMeter.Proofs.Store.Opening
import ProxyMeter.Store.Lifecycle

/-!
# A database outlives all calls

Records are saved, the table is taken down and set up again, and the database is closed and opened,
in any order. What the table has is then told by the log of these calls: nothing if it was taken
down last, and otherwise the records that were saved since then, numbered from one.
-/

namespace ProxyMeter.Store

open Calendar Traffic

/-! ### What the log tells -/

/-- The last call about the table, if there was one, took it down. -/
def isTakenDown (log : List LoggedCall) : Bool :=
  ((log.map LoggedCall.call).filter Call.isSchema).getLast?.any Call.isDown

/-- The records that were saved since the table was last taken down, in their order. -/
def savedSince (log : List LoggedCall) : List Record :=
  ((log.rtakeWhile fun e => !e.call.isDown).filter LoggedCall.done).flatMap (·.call.records)

/-- A table of records. -/
def Table.ofRecords (records : List Record) : Table :=
  { rows := numbered 0 records, lastId := records.length }

/-- The database that a log tells. -/
def toldBy (log : List LoggedCall) : Database :=
  if isTakenDown log then {} else { setUp := true, table := some (.ofRecords (savedSince log)) }

/-- A call about the table tells whether it is there. -/
theorem isTakenDown_concat (log : List LoggedCall) (e : LoggedCall) : isTakenDown (log ++ [e]) =
    if e.call.isSchema then e.call.isDown else isTakenDown log := by
  rw [isTakenDown, List.map_append, List.filter_append, List.map_singleton, List.filter_singleton]
  cases e.call.isSchema with
  | true => simp
  | false => simp [isTakenDown]

/-- Records are saved by calls that succeed, and are gone when the table is taken down. -/
theorem savedSince_concat (log : List LoggedCall) (e : LoggedCall) : savedSince (log ++ [e]) =
    if e.call.isDown then [] else savedSince log ++ if e.done then e.call.records else [] := by
  rw [savedSince, List.rtakeWhile_concat]
  cases e.call.isDown with
  | true => simp
  | false =>
    cases done : e.done with
    | true => simp [savedSince, done]
    | false => simp [savedSince, done]

/-- A call that is about rows leaves the table where it is, and saves its records if it succeeds. -/
theorem told_rows {c : Call} (rows : c.isSchema = false) (log : List LoggedCall) (done : Bool) :
    isTakenDown (log ++ [⟨c, done⟩]) = isTakenDown log ∧
      savedSince (log ++ [⟨c, done⟩]) = savedSince log ++ if done then c.records else [] := by
  have keeps : c.isDown = false := by cases c <;> first | rfl | cases rows
  rw [isTakenDown_concat, savedSince_concat]
  simp [rows, keeps]

/-! ### One call -/

namespace Database

/-- A database with a table takes all records. -/
theorem save_ofRecords (saved records : List Record) :
    save records ⟨true, some (.ofRecords saved)⟩ =
      .ok ⟨true, some (.ofRecords (saved ++ records))⟩ := by
  have rows := numbered_append 0 saved records
  rw [Nat.zero_add] at rows
  rw [save_eq]
  split
  · next none => rw [none, List.append_nil]
  · rw [Table.ofRecords, Table.ofRecords, rows, List.length_append]
    rfl

/-- A database without a table takes no record. -/
theorem save_of_table_eq_none {d : Database} (absent : d.table = none) (records : List Record) :
    save records d = if records = [] then .ok d else .error .noTableToWrite := by
  rw [save_eq, absent]
  rfl

/-- What a database without a table answers to a query with numbers in it. -/
theorem query_of_table_eq_none {d : Database} (absent : d.table = none) (range : TimeRange)
    (g : Grouping) (limit offset : Nat) :
    top g limit d = .error (if limit < 2 ^ 63 then .noTableToRead else .brokenOff) ∧
      page range limit offset d =
        .error (if limit < 2 ^ 63 ∧ offset < 2 ^ 63 then .noTableToRead else .brokenOff) := by
  have rows : d.rows = .error .noTableToRead := by rw [Database.rows, absent]
  constructor
  · split
    · next small =>
      rw [top, rows, isWord_iff.mpr small]
      rfl
    · next large =>
      rw [← isWord_iff, Bool.not_eq_true] at large
      rw [top, large]
      rfl
  · split
    · next small =>
      rw [page, rows, isWord_iff.mpr small.1, isWord_iff.mpr small.2]
      rfl
    · next large => exact page_eq_brokenOff d range large

end Database

namespace OpenDatabase

variable {o : OpenDatabase} {call : SaveCall}

theorem save_eq_ok {database : Database}
    (saved : Database.save call.records o.database = .ok database) :
    o.save call = .ok { o with database } := by
  rw [save, Database.perform_eq, saved]

theorem save_eq_error {fault : Fault}
    (refused : Database.save call.records o.database = .error fault) :
    o.save call = .error (.store fault) := by
  rw [save, Database.perform_eq, refused]

/-- A database that is kept, and could be opened, is opened again with what it has. -/
theorem reopen_eq {path : String} (opens : Location.openAt o.disk path = .ok o.disk)
    (kept : isKept path = true) :
    o.reopen path = .ok { o with database := o.database.migrateUp } := by
  rw [reopen, opens, if_pos kept]

end OpenDatabase

namespace Lifecycle

variable {path : String} {l : Lifecycle} {c : Call}

theorem call_eq_of_ok {opened : OpenDatabase} (h : l.opened.perform path c = .ok opened) :
    l.call path c = ⟨opened, l.log ++ [⟨c, true⟩]⟩ := by
  rw [call, h]

theorem call_eq_of_error {fault : CallFault} (h : l.opened.perform path c = .error fault) :
    l.call path c = ⟨l.opened, l.log ++ [⟨c, false⟩]⟩ := by
  rw [call, h]

/-- Every call is logged. -/
theorem log_call (path : String) (l : Lifecycle) (c : Call) :
    (l.call path c).log.map LoggedCall.call = l.log.map LoggedCall.call ++ [c] := by
  unfold call
  split <;> simp

end Lifecycle

/-- A database and its disk are as the log tells, and no records are left when the table was taken
down last. -/
structure Told (disk : Disk) (l : Lifecycle) : Prop where
  disk : l.opened.disk = disk
  database : l.opened.database = toldBy l.log
  none : isTakenDown l.log = true → savedSince l.log = []

namespace Told

variable {path : String} {disk : Disk} {l : Lifecycle}

/-- What there is when the table was taken down last. -/
theorem database_eq_empty (told : Told disk l) (down : isTakenDown l.log = true) :
    l.opened.database = {} := by
  rw [told.database, toldBy, if_pos down]

/-- What there is when the table was not taken down last. -/
theorem database_eq_ofRecords (told : Told disk l) (up : isTakenDown l.log = false) :
    l.opened.database = ⟨true, some (.ofRecords (savedSince l.log))⟩ := by
  rw [told.database, toldBy, up]
  rfl

/-- A database is as the log tells after a call about rows, if there is a table and the call added
its records, or there is none and the call added nothing. -/
theorem rows (told : Told disk l) {c : Call} (rows : c.isSchema = false) {o : OpenDatabase}
    {done : Bool} (place : o.disk = l.opened.disk)
    (added : isTakenDown l.log = false → o.database =
      ⟨true, some (.ofRecords (savedSince l.log ++ if done then c.records else []))⟩)
    (nothing : isTakenDown l.log = true →
      o.database = {} ∧ (if done then c.records else []) = []) :
    Told disk ⟨o, l.log ++ [⟨c, done⟩]⟩ := by
  obtain ⟨same, more⟩ := told_rows rows l.log done
  refine ⟨place.trans told.disk, ?_, ?_⟩
  · rw [toldBy, same, more]
    split
    · next down => exact (nothing down).1
    · next up => exact added (Bool.not_eq_true _ ▸ up)
  · rw [same, more]
    intro down
    rw [told.none down, (nothing down).2, List.nil_append]

/-- Saving records, with success or without, leaves a database as the log tells. -/
theorem save (told : Told disk l) (call : SaveCall) : Told disk (l.call path (.save call)) := by
  have rows : (Call.save call).isSchema = false := rfl
  have performs : l.opened.perform path (.save call) = l.opened.save call := rfl
  cases down : isTakenDown l.log with
  | false =>
    have saved := Database.save_ofRecords (savedSince l.log) call.records
    rw [← told.database_eq_ofRecords down] at saved
    rw [Lifecycle.call_eq_of_ok (performs.trans (OpenDatabase.save_eq_ok saved))]
    exact told.rows rows rfl (fun _ => rfl) (by rw [down]; exact nofun)
  | true =>
    have empty := told.database_eq_empty down
    have absent := Database.save_of_table_eq_none (d := l.opened.database) (by rw [empty])
      call.records
    by_cases none : call.records = []
    · rw [if_pos none] at absent
      rw [Lifecycle.call_eq_of_ok (performs.trans (OpenDatabase.save_eq_ok absent))]
      exact told.rows rows rfl (by rw [down]; exact nofun) fun _ => ⟨empty, none⟩
    · rw [if_neg none] at absent
      rw [Lifecycle.call_eq_of_error (performs.trans (OpenDatabase.save_eq_error absent))]
      exact told.rows rows rfl (by rw [down]; exact nofun) fun _ => ⟨empty, rfl⟩

/-- Setting the table up, with or without opening the database again, leaves a database as the log
tells. -/
theorem setUp (told : Told disk l) {c : Call} (schema : c.isSchema = true)
    (onward : c.isDown = false) (nothing : c.records = [])
    (performs : l.opened.perform path c =
      .ok { l.opened with database := l.opened.database.migrateUp }) :
    Told disk (l.call path c) := by
  have up : isTakenDown (l.log ++ [⟨c, true⟩]) = false := by
    rw [isTakenDown_concat]
    simp [schema, onward]
  have same : savedSince (l.log ++ [⟨c, true⟩]) = savedSince l.log := by
    rw [savedSince_concat]
    simp [onward, nothing]
  rw [Lifecycle.call_eq_of_ok performs]
  refine ⟨told.disk, ?_, by rw [up]; exact nofun⟩
  rw [toldBy, up, same]
  cases down : isTakenDown l.log with
  | false => rw [told.database_eq_ofRecords down]; rfl
  | true => rw [told.database_eq_empty down, told.none down]; rfl

/-- Taking the table down leaves a database as the log tells. -/
theorem takeDown (told : Told disk l) : Told disk (l.call path .down) := by
  have performs : l.opened.perform path .down =
      .ok { l.opened with database := l.opened.database.migrateDown } := rfl
  have down : isTakenDown (l.log ++ [⟨.down, true⟩]) = true := by
    rw [isTakenDown_concat]
    rfl
  rw [Lifecycle.call_eq_of_ok performs]
  refine ⟨told.disk, ?_, fun _ => by rw [savedSince_concat]; rfl⟩
  rw [toldBy, if_pos down]
  cases before : isTakenDown l.log with
  | false => rw [told.database_eq_ofRecords before]; rfl
  | true => rw [told.database_eq_empty before]; rfl

/-- Every call leaves a database as the log tells. -/
theorem call (told : Told disk l) (opens : Location.openAt disk path = .ok disk)
    (kept : isKept path = true) (c : Call) : Told disk (l.call path c) := by
  cases c with
  | save call => exact told.save call
  | up => exact told.setUp rfl rfl rfl rfl
  | down => exact told.takeDown
  | reopen =>
    have opens : Location.openAt l.opened.disk path = .ok l.opened.disk := by
      rw [told.disk, opens]
    exact told.setUp rfl rfl rfl (OpenDatabase.reopen_eq opens kept)

end Told

/-! ### All calls -/

namespace Lifecycle

variable {path : String} {disk₀ disk : Disk}

/-- Whatever calls are made, a database is as the log of them tells. -/
theorem told_run (opens : Location.openAt disk path = .ok disk) (kept : isKept path = true)
    (calls : List Call) :
    Told disk (run path disk calls) ∧ (run path disk calls).log.map LoggedCall.call = calls := by
  induction calls using List.reverseRecOn with
  | nil => exact ⟨⟨rfl, rfl, fun _ => rfl⟩, rfl⟩
  | append_singleton calls c ih =>
    have last : run path disk (calls ++ [c]) = (run path disk calls).call path c := by
      simp [run]
    obtain ⟨told, logged⟩ := ih
    rw [last, log_call, logged]
    exact ⟨told.call opens kept c, rfl⟩

/-- An open database without a table. -/
structure HasNoTable (path : String) (o : OpenDatabase) : Prop where
  save : ∀ call : SaveCall, call.records ≠ [] →
    o.perform path (.save call) = .error (.store .noTableToWrite)
  /-- A query is broken off if it has a number that is no signed word, and is refused otherwise. -/
  top : ∀ g limit, Repository.top g limit o.database =
    .error (if limit < 2 ^ 63 then .noTableToRead else .brokenOff)
  summary : ∀ range, Repository.summary range o.database = .error .noTableToRead
  page : ∀ range limit offset, Repository.page range limit offset o.database =
    .error (if limit < 2 ^ 63 ∧ offset < 2 ^ 63 then .noTableToRead else .brokenOff)
  up : o.perform path .up = .ok { o with database := ⟨true, some {}⟩ }
  reopen : o.perform path .reopen = .ok { o with database := ⟨true, some {}⟩ }

/-- An open database whose table has some records. -/
structure HasRecords (path : String) (o : OpenDatabase) (records : List Record) (t : Table) :
    Prop where
  rows : t.rows.map Row.record = records
  /-- The numbers of the rows are one, two, and so on. -/
  ids : t.rows.map Row.id = List.range' 1 records.length
  /-- Whatever is to be saved is. -/
  takes : ∀ c, c.isSchema = false → ∃ o', o.perform path c = .ok o'
  up : o.perform path .up = .ok o
  reopen : o.perform path .reopen = .ok o

/-- What is known of a database after some calls. -/
structure Outlives (path : String) (disk : Disk) (calls : List Call) (l : Lifecycle) : Prop where
  log : l.log.map LoggedCall.call = calls
  /-- The disk is as it was when the database was made. -/
  disk : l.opened.disk = disk
  /-- There is no table exactly if the last call about it took it down. -/
  absent : l.opened.database.table = none ↔ isTakenDown l.log = true
  /-- Without a table there is nothing to save to or to read, until the table is set up. -/
  without : l.opened.database.table = none → HasNoTable path l.opened
  /-- The table has the records that were saved since it was last taken down. -/
  has : ∀ t, l.opened.database.table = some t →
    HasRecords path l.opened (savedSince l.log) t

/-- What is known of a database as it is when its table was taken down. -/
theorem hasNoTable {o : OpenDatabase} (empty : o.database = {})
    (opens : Location.openAt o.disk path = .ok o.disk) (kept : isKept path = true) :
    HasNoTable path o := by
  have absent : o.database.table = none := by rw [empty]
  have save (call : SaveCall) (some : call.records ≠ []) :
      o.save call = .error (.store .noTableToWrite) := by
    apply OpenDatabase.save_eq_error
    rw [Database.save_of_table_eq_none absent, if_neg some]
  have rows : o.database.rows = .error .noTableToRead := by rw [Database.rows, absent]
  have up : o.database.migrateUp = ⟨true, some {}⟩ := by rw [empty]; rfl
  exact {
    save := save
    top := fun g limit => (Database.query_of_table_eq_none absent ⟨⟨0, 0⟩, ⟨0, 0⟩⟩ g limit 0).1
    summary := by
      intro range
      show (o.database.rows >>= _) = _
      rw [rows]
      rfl
    page := fun range limit offset =>
      (Database.query_of_table_eq_none absent range .domain limit offset).2
    up := by rw [OpenDatabase.perform, up]
    reopen := by rw [OpenDatabase.perform, OpenDatabase.reopen_eq opens kept, up] }

/-- What is known of a database with a table of records. -/
theorem hasRecords {o : OpenDatabase} {records : List Record}
    (table : o.database = ⟨true, some (.ofRecords records)⟩)
    (opens : Location.openAt o.disk path = .ok o.disk) (kept : isKept path = true) :
    HasRecords path o records (.ofRecords records) := by
  have up : { o with database := o.database.migrateUp } = o := by
    obtain ⟨place, database⟩ := o
    cases table
    rfl
  exact {
    rows := map_record_numbered 0 records
    ids := map_id_numbered 0 records
    takes := by
      intro c rows
      cases c with
      | save call =>
        exact ⟨_, OpenDatabase.save_eq_ok (by rw [table, Database.save_ofRecords])⟩
      | _ => cases rows
    up := congrArg Except.ok up
    reopen := (OpenDatabase.reopen_eq opens kept).trans (congrArg Except.ok up) }

/-- A database that is made at a path outlives all calls: whatever is saved, set up, taken down or
opened again, and in whatever order, the log tells what is there, and how the next call goes. -/
theorem outlives_run (opened : Location.openAt disk₀ path = .ok disk)
    (kept : isKept path = true) (calls : List Call) :
    Outlives path disk calls (run path disk calls) := by
  have opens := Location.openAt_again opened
  obtain ⟨told, log⟩ := told_run opens kept calls
  have again : Location.openAt (run path disk calls).opened.disk path =
      .ok (run path disk calls).opened.disk := by rw [told.disk, opens]
  refine ⟨log, told.disk, ?_, fun absent => ?_, fun t found => ?_⟩
  · rw [told.database, toldBy]
    split <;> simp_all
  · cases down : isTakenDown (run path disk calls).log with
    | true => exact hasNoTable (told.database_eq_empty down) again kept
    | false =>
      rw [told.database_eq_ofRecords down] at absent
      cases absent
  · cases down : isTakenDown (run path disk calls).log with
    | true =>
      rw [told.database_eq_empty down] at found
      cases found
    | false =>
      have table := told.database_eq_ofRecords down
      rw [table] at found
      cases found
      exact hasRecords table again kept

private def onPort (port : UInt16) : Record where
  event :=
    { sourceIp := "10.0.0.1", destinationIp := "93.184.216.34", domain := "example.org", port
      timestamp := ⟨1740830400, 0⟩, latencyMs := 12, bytesIn := 300, bytesOut := 200
      transport := transportTcp }
  createdAt := ⟨1740830400, 0⟩

private def inData : Disk :=
  { directories := [⟨false, ["data"]⟩]
    files := [(⟨false, ["data", "records.db"]⟩, .database)] }

private def takenDownOnce : List Call :=
  [.save (.batch [onPort 1, onPort 2]), .up, .reopen, .save (.one (onPort 3)), .down,
    .save (.one (onPort 4)), .reopen, .save (.batch [onPort 5, onPort 6]), .reopen]

/-- Only what was saved after the table had been set up again is in it, numbered from one. -/
theorem outlives_run_takenDownOnce :
    Location.openAt {} "data/records.db" = .ok inData ∧ isKept "data/records.db" = true ∧
      Outlives "data/records.db" inData takenDownOnce
        (run "data/records.db" inData takenDownOnce) ∧
      (run "data/records.db" inData takenDownOnce).opened.database.rows =
        .ok [⟨1, onPort 5⟩, ⟨2, onPort 6⟩] := by
  have opened : Location.openAt {} "data/records.db" = .ok inData := by decide +kernel
  have kept : isKept "data/records.db" = true := by decide +kernel
  exact ⟨opened, kept, outlives_run opened kept takenDownOnce, by decide +kernel⟩

/-- When the table has been taken down, a query that passes over too many rows is broken off, and
does not find that there is no table. -/
theorem page_without_table_brokenOff :
    Location.openAt {} "data/records.db" = .ok inData ∧ isKept "data/records.db" = true ∧
      let o := (run "data/records.db" inData [.down]).opened
      o.database.table = none ∧
        Repository.page ⟨⟨0, 0⟩, ⟨0, 0⟩⟩ 100 (2 ^ 63) o.database = .error .brokenOff :=
  ⟨by decide +kernel, by decide +kernel, by decide +kernel, by decide +kernel⟩

end Lifecycle

end ProxyMeter.Store
