import ProxyMeter.Proofs.Store.Database

/-!
# Queries that are not broken off

The store in memory breaks off a query when a sum leaves a signed word; as long as totals fit one,
it breaks off none. For a database a sum that leaves a word is a fault as others are. It breaks off
a query that is to give or to pass over more rows than a word counts.
-/

namespace ProxyMeter.Store

open Calendar Traffic

/-- Whether an integer is a signed word. -/
def Fits (n : Int) : Prop := leastWord ≤ n ∧ n ≤ greatestWord

/-- Whether the totals over any of the rows fit a signed word. -/
structure TotalsFit (rows : List Row) : Prop where
  bytesIn : ∀ part : List Row, part.Sublist rows → Fits (bytesIn part).sum
  bytesOut : ∀ part : List Row, part.Sublist rows → Fits (bytesOut part).sum
  latencies : ∀ part : List Row, part.Sublist rows → Fits (latencies part).sum

theorem Within.fits {xs : List Int} (h : Within xs) : Fits xs.sum := by
  have least : leastWord ≤ 0 := by decide
  exact ⟨least.trans (List.sum_nonneg h.1), h.2⟩

/-- Totals fit if nothing is negative and the totals over all rows fit. -/
theorem TotalsFit.of_addable {rows : List Row} (h : Addable (events rows)) : TotalsFit rows := by
  have sums (part : List Row) (fewer : part.Sublist rows) : Addable (events part) :=
    h.sublist (fewer.map _)
  refine ⟨fun part fewer => ?_, fun part fewer => ?_, fun part fewer => ?_⟩
  · rw [bytesIn_eq]
    exact (sums part fewer).bytesIn.fits
  · rw [bytesOut_eq]
    exact (sums part fewer).bytesOut.fits
  · rw [latencies_eq]
    exact (sums part fewer).latencies.fits

/-- A sum is found if it fits after each summand. -/
theorem sumWithin?_ne_none {xs : List Int} (fits : ∀ ys, ys <+: xs → Fits ys.sum) :
    sumWithin? xs ≠ none := by
  have found (xs : List Int) (start : Int) (fits : ∀ ys, ys <+: xs → Fits (start + ys.sum)) :
      xs.foldlM (fun sum x =>
        if leastWord ≤ sum + x ∧ sum + x ≤ greatestWord then some (sum + x) else none) start ≠
          none := by
    induction xs generalizing start with
    | nil => simp
    | cons x xs ih =>
      have first := fits [x] ⟨xs, rfl⟩
      rw [List.sum_singleton, Fits] at first
      rw [List.foldlM_cons, if_pos first]
      refine ih (start + x) fun ys fewer => ?_
      have more := fits (x :: ys) (List.cons_prefix_cons.mpr ⟨rfl, fewer⟩)
      rw [List.sum_cons, ← Int.add_assoc] at more
      exact more
  refine found xs 0 fun ys fewer => ?_
  rw [Int.zero_add]
  exact fits ys fewer

/-- The sum over some rows is found if the totals over any of the rows fit. -/
theorem exists_sumWithin? {rows part : List Row} {count : Row → Int} (fewer : part.Sublist rows)
    (fits : ∀ part : List Row, part.Sublist rows → Fits (part.map count).sum) :
    ∃ sum, sumWithin? (part.map count) = some sum := by
  refine Option.ne_none_iff_exists'.mp (sumWithin?_ne_none fun ys first => ?_)
  obtain ⟨front, before, rfl⟩ := List.prefix_map_iff.mp first
  exact fits front (before.sublist.trans fewer)

/-- A store that breaks off no query for at most one thousand groups or rows, with offsets that are
taken. -/
structure Unbroken {σ : Type} [Repository σ] (store : σ) (taken : Nat → Prop) : Prop where
  top : ∀ g limit, limit ≤ 1000 → Repository.top g limit store ≠ .error .brokenOff
  summary : ∀ range, Repository.summary range store ≠ .error .brokenOff
  page : ∀ range limit offset, limit ≤ 1000 → taken offset →
    Repository.page range limit offset store ≠ .error .brokenOff

/-- Groups are found if each of them can be summarised. -/
theorem groups_ne_error {g : Grouping} {rows : List Row} {fault : Fault}
    {summarise : List Row → Except Fault Summary}
    (h : ∀ part : List Row, part.Sublist rows → summarise part ≠ .error fault) :
    (grouped g.key (g.members rows)).mapM
      (fun group => (summarise group.2).map (Ranked.mk group.1)) ≠ .error fault :=
  mapM_ne_error fun group member => map_ne_error _ (h group.2 (sublist_of_mem_grouped member))

/-- The store in memory breaks nothing off as long as totals fit. -/
theorem Memory.unbroken {m : Memory} (fit : TotalsFit m.rows) : Unbroken m fun _ => True := by
  have sums (part : List Row) (fewer : part.Sublist m.rows) :
      summarise part ≠ .error .brokenOff := by
    obtain ⟨into, hin⟩ := exists_sumWithin? fewer fit.bytesIn
    obtain ⟨out, hout⟩ := exists_sumWithin? fewer fit.bytesOut
    obtain ⟨latency, hlatency⟩ := exists_sumWithin? fewer fit.latencies
    rw [summarise, bytesIn, bytesOut, latencies, hin, hout, hlatency]
    exact ok_ne_error _ _
  refine ⟨fun g limit _ => ?_, fun range => sums _ List.filter_sublist, fun _ _ _ _ _ =>
    ok_ne_error _ _⟩
  show top g limit m ≠ _
  rw [top_eq_grouped]
  exact bind_ne_error (groups_ne_error sums) fun groups => ok_ne_error _ _

/-- A database breaks off what has a number that is no signed word. -/
theorem Database.unbroken (d : Database) : Unbroken d (· < 2 ^ 63) := by
  have sums (part : List Row) : summarise part ≠ .error .brokenOff := by
    rw [summarise]
    split <;> simp
  have rows : d.rows ≠ .error .brokenOff := by
    rw [Database.rows]
    split <;> simp
  have word {n : Nat} (h : n < 2 ^ 63) : isWord n = true := isWord_iff.mpr h
  refine ⟨fun g limit small => ?_, fun range => ?_, fun range limit offset small taken => ?_⟩
  · show top g limit d ≠ _
    rw [top, word (by omega)]
    refine bind_ne_error rows fun rows => ?_
    split
    · exact ok_ne_error _ _
    · exact bind_ne_error (groups_ne_error fun part _ => sums part) fun groups => ok_ne_error _ _
  · exact bind_ne_error rows fun rows => sums _
  · show page range limit offset d ≠ _
    rw [page, word (by omega), word taken]
    exact bind_ne_error rows fun rows => ok_ne_error _ _

end ProxyMeter.Store
