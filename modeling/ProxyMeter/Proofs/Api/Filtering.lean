import ProxyMeter.Proofs.Api.TimeRange
import ProxyMeter.Proofs.Store.Agreement

/-!
# Ranges that a database filters

A database compares the texts of times, and an offset may move an end of a range out of the years 0
to 9999. A start before the year 0 does no harm, since its sign comes before every digit. The sign
of an end after the year 9999 comes before every digit, too: no row is found, though all rows from
the start on are in the range. Every other range that is asked for gives exactly its rows.
-/

namespace ProxyMeter.Api

open Calendar Store Traffic

/-- A database that answers for a range from exactly the rows in it: it summarises all of them, and
pages are slices of one listing of them, as long as the numbers fit a word. -/
structure Filters (d : Database) (range : TimeRange) (rows listing : List Row) : Prop where
  lists : Lists range rows (fun _ _ => True) listing
  summary : Repository.summary range d = Database.summarise listing.reverse
  count : ∀ s, Repository.summary range d = .ok s → s.count = (rowsIn range rows).length
  page : ∀ limit offset, Repository.page range limit offset d =
    if limit < 2 ^ 63 ∧ offset < 2 ^ 63 then .ok ((listing.drop offset).take limit)
    else .error .brokenOff

variable {start stop : Option String} {now : Instant} {range : TimeRange} {d : Database}
  {t : Table}

/-- Of the plain rows of a table a range gives those in it, or none if it ends too late. -/
theorem within_eq_of_resolveRange (clock : now.OnClock)
    (asked : resolveRange start stop now = .ok range)
    (shown : ∀ r ∈ t.rows, (timeOf r).OnClock ∧ (timeOf r).HasFourDigits) :
    Database.within range t.rows =
      if range.stop.year ≤ 9999 then
        (rowsIn range t.rows).mergeSort fun a b => (timeOf a).atOrBefore (timeOf b)
      else [] := by
  obtain ⟨first, last⟩ := onClock_of_resolveRange clock asked
  have forward := (resolveRange_cases asked).2.2
  have texts (r : Row) (hr : r ∈ t.rows) := TimeRange.stored_mem_iff forward first last
    (shown r hr).1 (shown r hr).2
  have inOrder {given : Row → Bool} (r : Row) (hr : r ∈ t.rows.filter given) (r' : Row)
      (hr' : r' ∈ t.rows.filter given) :
      (timeOf r).stored ≤ (timeOf r').stored ↔ timeOf r ≤ timeOf r' := by
    obtain ⟨clock, digits⟩ := shown r (List.mem_of_mem_filter hr)
    obtain ⟨clock', digits'⟩ := shown r' (List.mem_of_mem_filter hr')
    exact Instant.stored_le_stored_iff clock clock' digits digits'
  split
  · next few =>
    refine Database.within_eq_mergeSort _ (fun r hr => ?_) inOrder
    rw [texts r hr, and_iff_left few]
  · next great =>
    rw [Database.within_eq_mergeSort (fun _ => false) (fun r hr => ?_) inOrder]
    · simp
    · rw [texts r hr]
      simp [great]

/-- What a database answers for a range is read off the rows that it finds. -/
theorem answers_eq (table : d.table = some t) {listing : List Row}
    (found : Database.within range t.rows = listing.reverse) :
    Repository.summary range d = Database.summarise listing.reverse ∧
      ∀ limit offset, Repository.page range limit offset d =
        if limit < 2 ^ 63 ∧ offset < 2 ^ 63 then .ok ((listing.drop offset).take limit)
        else .error .brokenOff := by
  refine ⟨?_, fun limit offset => ?_⟩
  · show (d.rows >>= fun rows => Database.summarise (Database.within range rows)) = _
    rw [Database.rows, table, ← found]
    rfl
  · split
    · next words =>
      rw [Database.page_eq table words.1 words.2, found, List.reverse_reverse]
    · next large => exact Database.page_eq_brokenOff d range large

/-- A summary counts the rows that it is one of. -/
theorem count_of_summarise {rows : List Row} {s : Summary}
    (h : Database.summarise rows = .ok s) : s.count = rows.length := by
  rw [Database.summarise] at h
  split at h
  · cases h
    rfl
  · cases h

/-- A database filters a range that is asked for by instants, unless the range ends after the year
9999 and there are rows in it. It then finds none: the summary is one of no rows, and pages are
empty. -/
theorem filters_iff_of_resolveRange (clock : now.OnClock)
    (asked : resolveRange start stop now = .ok range) (table : d.table = some t)
    (shown : ∀ r ∈ t.rows, (timeOf r).OnClock ∧ (timeOf r).HasFourDigits) :
    ((∃ listing, Filters d range t.rows listing) ↔
      range.stop.year ≤ 9999 ∨ rowsIn range t.rows = []) ∧
    (9999 < range.stop.year → Repository.summary range d = Database.summarise [] ∧
      ∀ limit offset, Repository.page range limit offset d =
        if limit < 2 ^ 63 ∧ offset < 2 ^ 63 then .ok [] else .error .brokenOff) := by
  have found := within_eq_of_resolveRange clock asked shown
  have filters {listing : List Row} (reversed : Database.within range t.rows = listing.reverse)
      (lists : Lists range t.rows (fun _ _ => True) listing) :
      Filters d range t.rows listing := by
    obtain ⟨summary, page⟩ := answers_eq table reversed
    refine ⟨lists, summary, fun s summed => ?_, page⟩
    rw [count_of_summarise (summary.symm.trans summed), List.length_reverse,
      lists.perm.length_eq]
  by_cases few : range.stop.year ≤ 9999
  · rw [if_pos few] at found
    have anyOrder : t.rows.Pairwise fun _ _ => True := List.pairwise_of_forall fun _ _ => trivial
    refine ⟨iff_of_true ⟨_, filters (by rw [List.reverse_reverse, found]) ?_⟩ (.inl few),
      fun great => by omega⟩
    exact lists_reverse_mergeSort anyOrder
  · rw [if_neg few] at found
    obtain ⟨summary, page⟩ := @answers_eq range d t table [] found
    simp only [List.drop_nil, List.take_nil] at page
    refine ⟨⟨fun ⟨listing, h⟩ => .inr ?_, ?_⟩, fun _ => ⟨summary, page⟩⟩
    · -- A page of one row is empty, so there is nothing to list.
      have first := (h.page 1 0).symm.trans (page 1 0)
      have empty : listing = [] := by simpa using first
      exact List.Perm.eq_nil (empty ▸ h.lists.perm.symm)
    · rintro (few' | none)
      · exact absurd few' few
      · refine ⟨[], filters found ⟨?_, .nil⟩⟩
        rw [none]

/-- The rows of the records around a leap second. -/
def rowsAroundLeap : List Row := numbered 0 (recordsOf recordsAroundLeap)

/-- From a start in the year before 0 to an end in a leap second. -/
theorem filters_iff_of_resolveRange_leapSecond :
    let range : TimeRange := ⟨⟨-62167221000, 0⟩, ⟨1483228799, 1500000000⟩⟩
    resolveRange (some "0000-01-01T00:30:00+01:00") (some "2016-12-31T23:59:60.5Z") ⟨0, 0⟩ =
        .ok range ∧ range.start.year = -1 ∧
      (∀ r ∈ rowsAroundLeap, (timeOf r).OnClock ∧ (timeOf r).HasFourDigits) ∧
      (rowsIn range rowsAroundLeap).map (·.id) = [1, 2] ∧
      ∃ listing, Filters { table := some { rows := rowsAroundLeap } } range rowsAroundLeap
        listing := by
  have asked : resolveRange (some "0000-01-01T00:30:00+01:00") (some "2016-12-31T23:59:60.5Z")
      ⟨0, 0⟩ = .ok ⟨⟨-62167221000, 0⟩, ⟨1483228799, 1500000000⟩⟩ := by decide +kernel
  have shown : ∀ r ∈ rowsAroundLeap, (timeOf r).OnClock ∧ (timeOf r).HasFourDigits := by decide
  have clock : Instant.OnClock ⟨0, 0⟩ := by decide
  have filtered := @filters_iff_of_resolveRange _ _ _ _
    { table := some { rows := rowsAroundLeap } } { rows := rowsAroundLeap } clock asked rfl shown
  exact ⟨asked, by decide, shown, by decide, filtered.1.mpr (.inl (by decide))⟩

/-- An hour's offset takes the end of a range into the year 10000. A row of the year 2025 is in the
range, and a database finds no row. -/
theorem range_into_tenThousand_finds_nothing :
    let range : TimeRange := ⟨⟨1735689600, 0⟩, ⟨253402304399, 0⟩⟩
    let rows := numbered 0 [recordAt ⟨1740830400, 0⟩ 443]
    let d : Database := { table := some { rows } }
    resolveRange (some "2025-01-01T00:00:00Z") (some "9999-12-31T23:59:59-01:00") ⟨0, 0⟩ =
        .ok range ∧ range.stop.year = 10000 ∧
      (∀ r ∈ rows, (timeOf r).OnClock ∧ (timeOf r).HasFourDigits) ∧ rowsIn range rows = rows ∧
      Repository.summary range d = Database.summarise [] ∧
      Repository.page range 100 0 d = .ok [] ∧ ∀ listing, ¬ Filters d range rows listing := by
  have asked : resolveRange (some "2025-01-01T00:00:00Z") (some "9999-12-31T23:59:59-01:00")
      ⟨0, 0⟩ = .ok ⟨⟨1735689600, 0⟩, ⟨253402304399, 0⟩⟩ := by decide +kernel
  have shown : ∀ r ∈ numbered 0 [recordAt ⟨1740830400, 0⟩ 443],
      (timeOf r).OnClock ∧ (timeOf r).HasFourDigits := by decide
  have found := @within_eq_of_resolveRange _ _ _ _
    { rows := numbered 0 [recordAt ⟨1740830400, 0⟩ 443] } (by decide : Instant.OnClock ⟨0, 0⟩) asked
    shown
  rw [if_neg (by decide)] at found
  obtain ⟨summary, page⟩ := @answers_eq _
    { table := some { rows := numbered 0 [recordAt ⟨1740830400, 0⟩ 443] } } _ rfl [] found
  refine ⟨asked, by decide, shown, by decide, summary, page 100 0, fun listing h => ?_⟩
  have first := (h.page 1 0).symm.trans (page 1 0)
  have empty : listing = [] := by simpa using first
  have none := empty ▸ h.lists.perm
  exact absurd none.length_eq (by decide)

end ProxyMeter.Api
