import Mathlib.Data.List.Basic
import ProxyMeter.Proofs.Calendar.Stored
import ProxyMeter.Store.Database

/-!
# Listings of rows

Both stores list the rows in a range with the latest first. They differ in the rows of one instant:
the store in memory leaves them in the order of their arrival, the database turns it round. A page
is a slice of the listing.
-/

namespace ProxyMeter

open Calendar Traffic

/-- Sorting leaves those elements in their order between which the comparison does not decide. -/
theorem pairwise_mergeSort_of_pairwise {α : Type} {le : α → α → Bool} {P : α → α → Prop}
    (trans : ∀ a b c, le a b = true → le b c = true → le a c = true)
    (total : ∀ a b, (le a b || le b a) = true) {l : List α} (ordered : l.Pairwise P) :
    (l.mergeSort le).Pairwise fun a b => le a b = true ∧ (le b a = true → P a b) := by
  induction l with
  | nil => simp
  | cons a l ih =>
    obtain ⟨before, after, whole, rest, strict⟩ := List.mergeSort_cons trans total a l
    have sorted := List.pairwise_mergeSort trans total (a :: l)
    obtain ⟨first, ordered⟩ := List.pairwise_cons.mp ordered
    have member : ∀ b ∈ after, b ∈ l := fun b hb =>
      (List.mergeSort_perm l le).subset (by rw [rest]; exact List.mem_append_right _ hb)
    have ih := ih ordered
    rw [whole] at sorted ⊢
    rw [rest] at ih
    obtain ⟨front, back, between⟩ := List.pairwise_append.mp ih
    obtain ⟨-, middle, across⟩ := List.pairwise_append.mp sorted
    refine List.pairwise_append.mpr ⟨front, List.pairwise_cons.mpr ⟨fun b hb => ?_, back⟩, ?_⟩
    · exact ⟨List.rel_of_pairwise_cons middle hb, fun _ => first b (member b hb)⟩
    · intro b hb c hc
      obtain rfl | hc := List.mem_cons.mp hc
      · refine ⟨across b hb c (.head _), fun tied => ?_⟩
        have apart := strict b hb
        rw [tied] at apart
        contradiction
      · exact between b hb c hc

namespace Store

/-- The instant of a row. -/
abbrev timeOf (r : Row) : Instant := r.record.event.timestamp

/-- The rows in a range. -/
def rowsIn (range : TimeRange) (rows : List Row) : List Row :=
  rows.filter fun r => range.holds (timeOf r)

/-- The rows in a range, the latest first, those of one instant in an order of their own. -/
structure Lists (range : TimeRange) (rows : List Row) (tie : Row → Row → Prop)
    (listing : List Row) : Prop where
  perm : listing.Perm (rowsIn range rows)
  ordered : listing.Pairwise fun a b => timeOf b ≤ timeOf a ∧ (timeOf a ≤ timeOf b → tie a b)

/-- A number of rows that a database takes. -/
theorem Database.isWord_iff {n : Nat} : Database.isWord n = true ↔ n < 2 ^ 63 := by
  rw [Database.isWord, decide_eq_true_eq, greatestWord, Nat.pow_eq]
  omega

variable {range : TimeRange} {rows : List Row} {tie : Row → Row → Prop}

/-- The listing of the store in memory leaves rows of one instant in their order. -/
theorem Memory.lists (m : Memory) (ordered : m.rows.Pairwise tie) :
    Lists range m.rows tie (Memory.latestFirst (m.within range)) where
  perm := List.mergeSort_perm _ _
  ordered := by
    apply pairwise_mergeSort_of_pairwise _ _ (ordered.filter _)
    · exact fun a b c h h' => Instant.le_trans h' h
    · intro a b
      rw [Bool.or_eq_true]
      exact Instant.le_total _ _

/-- A page of the store in memory is a slice of its listing. -/
theorem Memory.page_eq (m : Memory) (limit offset : Nat) : Repository.page range limit offset m =
    .ok (((Memory.latestFirst (m.within range)).drop offset).take limit) := rfl

/-- A time in a range has the years of the range. -/
theorem hasFourDigits_of_mem_rowsIn (plain : range.HasFourDigits) {r : Row}
    (member : r ∈ rowsIn range rows) : (timeOf r).HasFourDigits := by
  obtain ⟨least, greatest⟩ := TimeRange.holds_iff.mp (List.mem_filter.mp member).2
  have first := plain.startDigits
  have last := plain.stopDigits
  have after := Instant.year_mono least
  have before := Instant.year_mono greatest
  rw [Instant.HasFourDigits] at *
  omega

/-- Where the texts of some rows are between those of a range, and are in the order of their times,
the database gives these rows in this order. -/
theorem Database.within_eq_mergeSort (given : Row → Bool)
    (inside : ∀ r ∈ rows, (range.start.stored ≤ (timeOf r).stored ∧
      (timeOf r).stored ≤ range.stop.stored) ↔ given r = true)
    (ordered : ∀ r ∈ rows.filter given, ∀ r' ∈ rows.filter given,
      (timeOf r).stored ≤ (timeOf r').stored ↔ timeOf r ≤ timeOf r') :
    Database.within range rows =
      (rows.filter given).mergeSort fun a b => (timeOf a).atOrBefore (timeOf b) := by
  have same : rows.filter ((fun e : String × Row => decide (range.start.stored ≤ e.1) &&
      decide (e.1 ≤ range.stop.stored)) ∘ fun r => ((timeOf r).stored, r)) = rows.filter given := by
    apply List.filter_congr
    intro r hr
    rw [Bool.eq_iff_iff, ← inside r hr]
    simp only [Function.comp_apply, Bool.and_eq_true, decide_eq_true_eq]
  simp only [Database.within]
  rw [List.filter_map, same,
    List.map_mergeSort (s := fun a b => (timeOf a).atOrBefore (timeOf b)), List.map_map]
  · simp [Function.comp_def]
  · simp only [List.mem_map, forall_exists_index, and_imp, forall_apply_eq_imp_iff₂]
    intro r hr r' hr'
    rw [Bool.eq_iff_iff, decide_eq_true_eq]
    exact ordered r hr r' hr'

/-- Where the texts of times are compared, the times are. -/
theorem Database.within_eq (plain : range.HasFourDigits)
    (clock : ∀ r ∈ rows, (timeOf r).OnClock) : Database.within range rows =
      (rowsIn range rows).mergeSort fun a b => (timeOf a).atOrBefore (timeOf b) := by
  refine within_eq_mergeSort _ (fun r hr => ?_) fun r hr r' hr' => ?_
  · exact (TimeRange.holds_iff_stored plain (clock r hr)).symm
  · exact Instant.stored_le_stored_iff (clock r (List.mem_of_mem_filter hr))
      (clock r' (List.mem_of_mem_filter hr')) (hasFourDigits_of_mem_rowsIn plain hr)
      (hasFourDigits_of_mem_rowsIn plain hr')

/-- Rows sorted by their times and turned round are a listing that turns round rows of one
instant. -/
theorem lists_reverse_mergeSort (ordered : rows.Pairwise tie) : Lists range rows
    (fun a b => tie b a)
    ((rowsIn range rows).mergeSort fun a b => (timeOf a).atOrBefore (timeOf b)).reverse := by
  refine ⟨(List.reverse_perm _).trans (List.mergeSort_perm _ _), List.pairwise_reverse.mpr ?_⟩
  apply pairwise_mergeSort_of_pairwise _ _ (ordered.filter _)
  · exact fun a b c => Instant.le_trans
  · intro a b
    rw [Bool.or_eq_true]
    exact Instant.le_total _ _

/-- The listing of a database turns round rows of one instant. -/
theorem Database.lists (plain : range.HasFourDigits) (clock : ∀ r ∈ rows, (timeOf r).OnClock)
    (ordered : rows.Pairwise tie) :
    Lists range rows (fun a b => tie b a) (Database.within range rows).reverse := by
  rw [within_eq plain clock]
  exact lists_reverse_mergeSort ordered

/-- A page of a database is a slice of its listing, as long as the numbers fit a word. -/
theorem Database.page_eq {d : Database} {t : Table} (h : d.table = some t) {limit offset : Nat}
    (hl : limit < 2 ^ 63) (ho : offset < 2 ^ 63) : Repository.page range limit offset d =
      .ok (((Database.within range t.rows).reverse.drop offset).take limit) := by
  show Database.page range limit offset d = _
  rw [Database.page, isWord_iff.mpr hl, isWord_iff.mpr ho, Database.rows, h]
  rfl

/-- A database breaks off a query that is to give or to pass over more rows than a word counts. -/
theorem Database.page_eq_brokenOff (d : Database) (range : TimeRange) {limit offset : Nat}
    (h : ¬ (limit < 2 ^ 63 ∧ offset < 2 ^ 63)) :
    Repository.page range limit offset d = .error .brokenOff := by
  have large : (!isWord limit || !isWord offset) = true := by
    rw [← isWord_iff, ← isWord_iff, ← Bool.and_eq_true, Bool.not_eq_true] at h
    rw [← Bool.not_and, h]
    rfl
  show Database.page range limit offset d = _
  rw [Database.page, large]
  rfl

/-- A database breaks off a query that passes over more rows than a word counts. -/
theorem Database.page_brokenOff (d : Database) (range : TimeRange) (limit : Nat) {offset : Nat}
    (h : 2 ^ 63 ≤ offset) : Repository.page range limit offset d = .error .brokenOff :=
  page_eq_brokenOff d range (by omega)

end Store
end ProxyMeter
