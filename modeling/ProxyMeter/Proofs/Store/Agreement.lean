import ProxyMeter.Proofs.Store.Database

/-!
# Two stores side by side

The store in memory and a database on which the same records are saved, one by one or in batches,
have the same rows under the same numbers. Groups and summaries do not depend on the order of rows,
so both report the same of them. Pages depend on it: they are alike as far as rows differ in their
instants.
-/

namespace ProxyMeter.Store

open Calendar Pipeline Traffic

/-! ### Pages that differ in ties -/

/-- Pages with the same instants in the same places, and with the same row wherever no other row of
the range has its instant. -/
structure AlikeButForTies (range : TimeRange) (rows page page' : List Row) : Prop where
  times : page.map timeOf = page'.map timeOf
  alone : ∀ (i : Nat) (r : Row), page[i]? = some r →
    (∀ s ∈ rowsIn range rows, timeOf s = timeOf r → s = r) → page'[i]? = some r

section

variable {range : TimeRange} {rows page page' listing listing' : List Row}
  {tie tie' : Row → Row → Prop}

/-- Without ties, pages that are alike are the same. -/
theorem AlikeButForTies.eq_of_nodup (h : AlikeButForTies range rows page page')
    (member : ∀ r ∈ page, r ∈ rowsIn range rows)
    (distinct : ((rowsIn range rows).map timeOf).Nodup) : page = page' := by
  have length : page.length = page'.length := by simpa using congrArg List.length h.times
  apply List.ext_getElem?
  intro i
  cases found : page[i]? with
  | none =>
    rw [List.getElem?_eq_none_iff] at found
    exact (List.getElem?_eq_none (by omega)).symm
  | some r =>
    symm
    refine h.alone i r found fun s hs same => ?_
    exact List.inj_on_of_nodup_map distinct hs (member r (List.mem_of_getElem? found)) same

/-- Two listings of the same rows have the same instants in the same places. -/
theorem Lists.times_eq (h : Lists range rows tie listing) (h' : Lists range rows tie' listing') :
    listing.map timeOf = listing'.map timeOf := by
  have sorted : (listing.map timeOf).Pairwise fun a b => b ≤ a :=
    List.pairwise_map.mpr (h.ordered.imp And.left)
  have sorted' : (listing'.map timeOf).Pairwise fun a b => b ≤ a :=
    List.pairwise_map.mpr (h'.ordered.imp And.left)
  refine List.Perm.eq_of_pairwise ?_ sorted sorted' ((h.perm.trans h'.perm.symm).map timeOf)
  exact fun a b _ _ before after => Instant.le_antisymm after before

/-- Slices of two listings are alike. -/
theorem Lists.alikeButForTies (h : Lists range rows tie listing)
    (h' : Lists range rows tie' listing') (limit offset : Nat) :
    AlikeButForTies range rows ((listing.drop offset).take limit)
      ((listing'.drop offset).take limit) := by
  have times : ((listing.drop offset).take limit).map timeOf =
      ((listing'.drop offset).take limit).map timeOf := by
    rw [List.map_take, List.map_drop, h.times_eq h', ← List.map_drop, ← List.map_take]
  refine ⟨times, fun i r found only => ?_⟩
  have there := congrArg (fun instants => instants[i]?) times
  rw [List.getElem?_map, List.getElem?_map, found] at there
  obtain ⟨s, found', same⟩ := Option.map_eq_some_iff.mp there.symm
  -- The row in the same place has the instant of this one, so it is the same.
  have member : s ∈ listing' := List.mem_of_mem_drop (List.mem_of_mem_take
    (List.mem_of_getElem? found'))
  rw [found', only s (h'.perm.subset member) same]

end

/-! ### The same calls -/

variable {calls : List SaveCall}

/-- The records that calls save. -/
def recordsOf (calls : List SaveCall) : List Record := calls.flatMap SaveCall.records

/-- Makes calls that save records, one after the other. -/
def saveEach {σ : Type} [Repository σ] (store : σ) (calls : List SaveCall) : Except Fault σ :=
  calls.foldlM (fun store call => call.perform store) store

/-- Where one record is taken as a list of one is, calls come to the batches of their records. -/
theorem saveEach_eq_saveAll {σ : Type} [Repository σ]
    (same : ∀ (call : SaveCall) (store : σ),
      call.perform store = Repository.save call.records store)
    (store : σ) (calls : List SaveCall) :
    saveEach store calls = saveAll store (calls.map SaveCall.records) := by
  simp only [saveEach, saveAll, List.foldlM_map, same]

/-- Numbered records have the events of the records. -/
theorem events_numbered (last : Nat) (records : List Record) :
    events (numbered last records) = records.map Record.event := by
  rw [← map_record_numbered last records, List.map_map, map_record_numbered]
  rfl

/-- Both stores take all records, and number them alike. -/
theorem exists_saveEach (calls : List SaveCall) :
    ∃ (m : Memory) (d : Database) (t : Table), saveEach {} calls = .ok m ∧
      saveEach (Database.migrateUp {}) calls = .ok d ∧ d.table = some t ∧
        m.rows = numbered 0 (recordsOf calls) ∧
        t.rows = numbered 0 (recordsOf calls) := by
  rw [saveEach_eq_saveAll Memory.perform_eq, saveEach_eq_saveAll Database.perform_eq, recordsOf,
    List.flatMap_def]
  obtain ⟨m, saved, rows⟩ := Memory.saveAll_eq (m := {}) rfl (calls.map SaveCall.records)
  obtain ⟨d, t, saved', table, rows'⟩ := Database.saveAll_eq (d := Database.migrateUp {}) (t := {})
    rfl rfl (calls.map SaveCall.records)
  exact ⟨m, d, t, saved, saved', table, rows, rows'⟩

theorem onClock_numbered (clock : ∀ r ∈ recordsOf calls, r.event.timestamp.OnClock) :
    ∀ r ∈ numbered 0 (recordsOf calls), (timeOf r).OnClock := by
  intro r hr
  apply clock
  rw [← map_record_numbered 0 (recordsOf calls)]
  exact List.mem_map_of_mem hr

/-- Two empty stores on which the same calls are made agree on the largest groups and on the
summaries of ranges: the groups are those of all rows in their order, the summaries what the events
in the range add up to. -/
theorem aggregates_agree (clock : ∀ r ∈ recordsOf calls, r.event.timestamp.OnClock)
    (addable : Addable ((recordsOf calls).map Record.event)) :
    ∃ (m : Memory) (d : Database), saveEach {} calls = .ok m ∧
      saveEach (Database.migrateUp {}) calls = .ok d ∧
      (∀ g limit, limit < 2 ^ 63 → Repository.top g limit m = Repository.top g limit d ∧
        Repository.top g limit m =
          .ok ((ranked (summaries g (numbered 0 (recordsOf calls)))).take limit)) ∧
      ∀ range : TimeRange, range.HasFourDigits →
        Repository.summary range m = Repository.summary range d ∧
        Repository.summary range m = .ok (summaryOf
          (((recordsOf calls).map Record.event).filter (range.holds ·.timestamp))) := by
  obtain ⟨m, d, t, saved, saved', table, rows, rows'⟩ := exists_saveEach calls
  have sums : Addable (events (numbered 0 (recordsOf calls))) := by
    rw [events_numbered]
    exact addable
  have inRange (range : TimeRange) : events (rowsIn range (numbered 0 (recordsOf calls))) =
      ((recordsOf calls).map Record.event).filter (range.holds ·.timestamp) := by
    rw [← events_numbered 0, events, events, List.filter_map]
    rfl
  refine ⟨m, d, saved, saved', fun g limit small => ?_, fun range plain => ?_⟩
  · have top : Repository.top g limit m = _ := Memory.top_eq g limit (rows ▸ sums)
    have top' : Repository.top g limit d = _ := Database.top_eq table g small (rows' ▸ sums)
    rw [top, top', rows, rows']
    exact ⟨rfl, rfl⟩
  · have clock' := onClock_numbered clock
    rw [Memory.summary_within range (rows ▸ sums),
      Database.summary_eq table plain (rows' ▸ clock') (rows' ▸ sums), rows', ← inRange, ← rows]
    exact ⟨rfl, rfl⟩

/-- The record of a session with a latency of twelve milliseconds, 300 bytes in and 200 bytes
out. -/
def recordAt (timestamp : Instant) (port : UInt16) : Record where
  event :=
    { sourceIp := "10.0.0.1", destinationIp := "93.184.216.34", domain := "example.org", port
      timestamp, latencyMs := 12, bytesIn := 300, bytesOut := 200, transport := transportTcp }
  createdAt := timestamp

/-- A record in a leap second, and one before it and one after it. -/
def recordsAroundLeap : List SaveCall :=
  [.one (recordAt ⟨1483228799, 1500000000⟩ 443), .batch [],
    .batch [recordAt ⟨1483228799, 999999999⟩ 80, recordAt ⟨1483228800, 0⟩ 443]]

theorem aggregates_agree_leapSecond :
    ∃ (m : Memory) (d : Database), saveEach {} recordsAroundLeap = .ok m ∧
      saveEach (Database.migrateUp {}) recordsAroundLeap = .ok d ∧
      Repository.top .domain (2 ^ 63 - 1) m = Repository.top .domain (2 ^ 63 - 1) d ∧
      let leap : TimeRange := ⟨⟨1483228799, 1000000000⟩, ⟨1483228799, 1999999999⟩⟩
      Repository.summary leap m = Repository.summary leap d ∧
        Repository.summary leap m =
          .ok (summaryOf [(recordAt ⟨1483228799, 1500000000⟩ 443).event]) := by
  obtain ⟨m, d, saved, saved', top, summary⟩ :=
    @aggregates_agree recordsAroundLeap (by decide) (by decide)
  refine ⟨m, d, saved, saved', (top .domain _ (by decide)).1, ?_⟩
  exact summary ⟨⟨1483228799, 1000000000⟩, ⟨1483228799, 1999999999⟩⟩ (by decide)

/-- Both stores give slices of the listing of a range. Rows of one instant are listed with the
oldest first in memory and with the newest first in a database; but for this, pages are alike. -/
theorem pages_agree_but_for_ties (clock : ∀ r ∈ recordsOf calls, r.event.timestamp.OnClock) :
    ∃ (m : Memory) (d : Database), saveEach {} calls = .ok m ∧
      saveEach (Database.migrateUp {}) calls = .ok d ∧
      ∀ range : TimeRange, range.HasFourDigits → ∃ oldest newest : List Row,
        Lists range (numbered 0 (recordsOf calls)) (fun a b => a.id < b.id) oldest ∧
        Lists range (numbered 0 (recordsOf calls)) (fun a b => b.id < a.id) newest ∧
        ∀ limit offset, limit < 2 ^ 63 → offset < 2 ^ 63 →
          Repository.page range limit offset m = .ok ((oldest.drop offset).take limit) ∧
          Repository.page range limit offset d = .ok ((newest.drop offset).take limit) ∧
          AlikeButForTies range (numbered 0 (recordsOf calls)) ((oldest.drop offset).take limit)
            ((newest.drop offset).take limit) ∧
          (((rowsIn range (numbered 0 (recordsOf calls))).map timeOf).Nodup →
            Repository.page range limit offset m = Repository.page range limit offset d) := by
  obtain ⟨m, d, t, saved, saved', table, rows, rows'⟩ := exists_saveEach calls
  refine ⟨m, d, saved, saved', fun range plain => ?_⟩
  have ids := pairwise_numbered 0 (recordsOf calls)
  have oldest : Lists range (numbered 0 (recordsOf calls)) (fun a b => a.id < b.id)
      (Memory.latestFirst (m.within range)) := by
    rw [← rows] at ids ⊢
    exact Memory.lists m ids
  have newest : Lists range (numbered 0 (recordsOf calls)) (fun a b => b.id < a.id)
      (Database.within range (numbered 0 (recordsOf calls))).reverse :=
    Database.lists plain (onClock_numbered clock) ids
  refine ⟨_, _, oldest, newest, fun limit offset small small' => ?_⟩
  have alike := oldest.alikeButForTies newest limit offset
  have page := @Memory.page_eq range m limit offset
  have page' := @Database.page_eq range d t table limit offset small small'
  rw [rows'] at page'
  refine ⟨page, page', alike, fun distinct => ?_⟩
  rw [page, page', alike.eq_of_nodup (fun r hr => ?_) distinct]
  exact oldest.perm.subset (List.mem_of_mem_drop (List.mem_of_mem_take hr))

/-- Two records of one instant. -/
def twins : List SaveCall :=
  [.batch [recordAt ⟨1740830400, 0⟩ 443, recordAt ⟨1740830400, 0⟩ 444]]

theorem pages_agree_but_for_ties_twins :
    ∃ (m : Memory) (d : Database), saveEach {} twins = .ok m ∧
      saveEach (Database.migrateUp {}) twins = .ok d ∧
      ∃ oldest newest : List Row,
        let instant : TimeRange := ⟨⟨1740830400, 0⟩, ⟨1740830400, 0⟩⟩
        Repository.page instant 1 0 m = .ok (oldest.take 1) ∧
          Repository.page instant 1 0 d = .ok (newest.take 1) ∧
          (oldest.take 1).map timeOf = (newest.take 1).map timeOf := by
  obtain ⟨m, d, saved, saved', pages⟩ := @pages_agree_but_for_ties twins (by decide)
  obtain ⟨oldest, newest, -, -, pages⟩ := pages ⟨⟨1740830400, 0⟩, ⟨1740830400, 0⟩⟩ (by decide)
  obtain ⟨page, page', alike, -⟩ := pages 1 0 (by decide) (by decide)
  exact ⟨m, d, saved, saved', oldest, newest, page, page', alike.times⟩

/-- A page may end between two rows of one instant; each store then gives another of them. -/
theorem pages_of_twins_differ :
    (∀ r ∈ recordsOf twins, r.event.timestamp.OnClock) ∧
      let instant : TimeRange := ⟨⟨1740830400, 0⟩, ⟨1740830400, 0⟩⟩
      instant.HasFourDigits ∧
      ∃ (m : Memory) (d : Database), saveEach {} twins = .ok m ∧
        saveEach (Database.migrateUp {}) twins = .ok d ∧
        Repository.page instant 1 0 m = .ok [⟨1, recordAt ⟨1740830400, 0⟩ 443⟩] ∧
        Repository.page instant 1 0 d = .ok [⟨2, recordAt ⟨1740830400, 0⟩ 444⟩] ∧
        Repository.page instant 1 0 m ≠ Repository.page instant 1 0 d := by
  obtain ⟨m, d, t, saved, saved', table, rows, rows'⟩ := exists_saveEach twins
  have plain : TimeRange.HasFourDigits ⟨⟨1740830400, 0⟩, ⟨1740830400, 0⟩⟩ := by decide
  have oldest : Repository.page ⟨⟨1740830400, 0⟩, ⟨1740830400, 0⟩⟩ 1 0 m =
      .ok [⟨1, recordAt ⟨1740830400, 0⟩ 443⟩] := by
    rw [Memory.page_eq, Memory.latestFirst, Memory.within, rows,
      List.mergeSort_of_pairwise (by decide)]
    rfl
  have newest : Repository.page ⟨⟨1740830400, 0⟩, ⟨1740830400, 0⟩⟩ 1 0 d =
      .ok [⟨2, recordAt ⟨1740830400, 0⟩ 444⟩] := by
    rw [Database.page_eq table (by decide) (by decide), rows',
      Database.within_eq plain (onClock_numbered (by decide)),
      List.mergeSort_of_pairwise (by decide)]
    rfl
  refine ⟨by decide, plain, m, d, saved, saved', oldest, newest, ?_⟩
  rw [oldest, newest]
  simp

end ProxyMeter.Store
