import ProxyMeter.Proofs.Store.Listing
import ProxyMeter.Proofs.Store.Memory

/-!
# What a database reports

A database numbers the records that it takes one after the other, as the store in memory does. As
long as no sum leaves a signed word, it summarises rows as the store in memory does, too.
-/

namespace ProxyMeter.Store

open Calendar Pipeline Traffic

/-! ### Taking records -/

/-- A database with a table takes all records. -/
theorem Database.saveAll_eq {d : Database} {t : Table} (h : d.table = some t)
    (count : t.lastId = t.rows.length) (batches : List (List Record)) :
    ∃ d' t', saveAll d batches = .ok d' ∧ d'.table = some t' ∧
      t'.rows = t.rows ++ numbered t.rows.length batches.flatten := by
  induction batches generalizing d t with
  | nil => exact ⟨d, t, rfl, h, by simp [numbered]⟩
  | cons records rest ih =>
    rw [saveAll, List.foldlM_cons]
    show ∃ d' t', (Database.save records d).bind _ = _ ∧ _
    by_cases none : records = []
    · subst none
      exact ih h count
    · have saved : Database.save records d = .ok { d with
          table := some ⟨t.rows ++ numbered t.lastId records, t.lastId + records.length⟩ } := by
        simp [Database.save_eq, Database.grown, Table.grown, h, none]
      rw [saved]
      obtain ⟨d', t', done, table, rows⟩ := ih (d := { d with
        table := some ⟨t.rows ++ numbered t.lastId records, t.lastId + records.length⟩ }) rfl
        (by simp [count])
      refine ⟨d', t', done, table, ?_⟩
      rw [rows, count, List.flatten_cons, numbered_append, List.append_assoc, List.length_append,
        length_numbered]

/-! ### Summaries -/

namespace Database

/-- Rows are summarised by the number of their events and the sums over them. -/
theorem summarise_eq {rows : List Row} (h : Addable (events rows)) :
    summarise rows = .ok (summaryOf (events rows)) := by
  have mean : average (latencies rows) =
      mean ((events rows).map (·.latencyMs)).sum (events rows).length := by
    rw [average, latencies_eq, sumWithin?_eq_some h.latencies, List.length_map]
  rw [summarise, bytesIn_eq, bytesOut_eq, sumWithin?_eq_some h.bytesIn,
    sumWithin?_eq_some h.bytesOut, mean, ← length_events]
  rfl

variable {d : Database} {t : Table}

/-- The summary of a range is that of the events in it. -/
theorem summary_eq (table : d.table = some t) {range : TimeRange} (plain : range.HasFourDigits)
    (clock : ∀ r ∈ t.rows, (timeOf r).OnClock) (h : Addable (events t.rows)) :
    Repository.summary range d = .ok (summaryOf (events (rowsIn range t.rows))) := by
  have perm : (within range t.rows).Perm (rowsIn range t.rows) := by
    rw [within_eq plain clock]
    exact List.mergeSort_perm _ _
  have same : (events (within range t.rows)).Perm (events (rowsIn range t.rows)) := perm.map _
  have sums : Addable (events (within range t.rows)) :=
    (h.sublist (List.filter_sublist.map _)).perm same
  show (d.rows >>= fun rows => summarise (within range rows)) = _
  rw [Database.rows, table]
  show summarise (within range t.rows) = _
  rw [summarise_eq sums, summaryOf_perm same]

/-- The groups are ranked, and the largest are taken. -/
theorem top_eq (table : d.table = some t) (g : Grouping) {limit : Nat} (hl : limit < 2 ^ 63)
    (h : Addable (events t.rows)) :
    top g limit d = .ok ((ranked (summaries g t.rows)).take limit) := by
  rw [top, isWord_iff.mpr hl, Database.rows, table]
  by_cases none : limit = 0
  · subst none
    rfl
  · simp only [none, if_false]
    exact congrArg (fun groups => groups.bind fun groups => .ok ((ranked groups).take limit))
      (mapM_grouped g (fun _ => summarise_eq) h)

end Database
end ProxyMeter.Store
