import ProxyMeter.Proofs.Api.TimeRange
import ProxyMeter.Proofs.Store.Agreement

/-!
# Reading a listing page by page

Who asks for one page after the other, each where the one before it ended, and stops at a page that
is shorter than its limit, has read the listing of a range: every row once and no other. What
carries this is that each page is a slice of one listing and tells the limit with which it was cut.
-/

namespace ProxyMeter.Api

open Calendar Store Traffic

/-- A reading of pages from an offset on: a page that is as long as its limit is followed by the
next one, a shorter page is the last. -/
inductive Reading (ask : Nat → Except QuestionFault Page) : Nat → List Page → Prop where
  | last {offset : Nat} {page : Page} (answer : ask offset = .ok page)
    (short : page.rows.length < page.limit) : Reading ask offset [page]
  | next {offset : Nat} {page : Page} {pages : List Page} (answer : ask offset = .ok page)
    (long : page.limit ≤ page.rows.length) (rest : Reading ask (offset + page.limit) pages) :
    Reading ask offset (page :: pages)

/-- The page of a listing at an offset. -/
def pageOf (limit : Nat) (listing : List Row) (offset : Nat) : Page :=
  ⟨(listing.drop offset).take limit, limit, offset⟩

section

variable {ask : Nat → Except QuestionFault Page} {limit offset : Nat} {listing : List Row}
  {pages : List Page}

theorem length_pageOf (limit : Nat) (listing : List Row) (offset : Nat) :
    (pageOf limit listing offset).rows.length = min limit (listing.length - offset) := by
  rw [pageOf, List.length_take, List.length_drop]

/-- A reading of slices ends: at each step fewer rows are left. -/
theorem exists_reading (positive : 1 ≤ limit)
    (slices : ∀ offset ≤ listing.length, ask offset = .ok (pageOf limit listing offset))
    (inside : offset ≤ listing.length) : ∃ pages, Reading ask offset pages := by
  induction left : listing.length - offset using Nat.strongRecOn generalizing offset with
  | ind n ih =>
    have length := length_pageOf limit listing offset
    by_cases short : listing.length - offset < limit
    · refine ⟨_, .last (slices offset inside) ?_⟩
      show (pageOf limit listing offset).rows.length < limit
      omega
    · obtain ⟨pages, rest⟩ := ih (listing.length - (offset + limit)) (by omega)
        (by omega : offset + limit ≤ listing.length) rfl
      refine ⟨_, .next (slices offset inside) ?_ rest⟩
      show limit ≤ (pageOf limit listing offset).rows.length
      omega

/-- A reading of slices gives what is left of the listing, in pages as long as the limit up to a
shorter one. -/
theorem Reading.whole
    (slices : ∀ offset ≤ listing.length, ask offset = .ok (pageOf limit listing offset))
    (inside : offset ≤ listing.length) (h : Reading ask offset pages) :
    pages.flatMap Page.rows = listing.drop offset ∧ ∃ front final, pages = front ++ [final] ∧
      (∀ page ∈ front, page.rows.length = limit) ∧ final.rows.length < limit := by
  induction h with
  | @last offset page answer short =>
    rw [slices offset inside] at answer
    cases answer
    have length := length_pageOf limit listing offset
    have short : (pageOf limit listing offset).rows.length < limit := short
    refine ⟨?_, [], _, rfl, by simp, short⟩
    rw [List.flatMap_cons, List.flatMap_nil, List.append_nil]
    refine List.take_of_length_le ?_
    rw [List.length_drop]
    omega
  | @next offset page pages answer long rest ih =>
    rw [slices offset inside] at answer
    cases answer
    have length := length_pageOf limit listing offset
    have long : limit ≤ (pageOf limit listing offset).rows.length := long
    obtain ⟨rows, front, final, rfl, full, short⟩ :=
      ih (show offset + limit ≤ listing.length by omega)
    refine ⟨?_, _ :: front, final, rfl, ?_, short⟩
    · rw [List.flatMap_cons, rows]
      show (listing.drop offset).take limit ++ listing.drop (offset + limit) = _
      rw [← List.drop_drop, List.take_append_drop]
    · intro page member
      obtain rfl | member := List.mem_cons.mp member
      · omega
      · exact full page member

end

/-- What paging comes to, with offsets that are taken. A limit between one and one thousand is
reported with every page; each page is a slice of one listing of the rows in the range, the latest
first; and a reading from the beginning ends and gives that listing, in pages as long as the limit
up to a shorter one. -/
structure Pages (ask : Nat → Except QuestionFault Page) (taken : Nat → Prop) (range : TimeRange)
    (rows : List Row) (limit : Nat) (listing : List Row) : Prop where
  limits : 1 ≤ limit ∧ limit ≤ 1000
  perm : listing.Perm (rowsIn range rows)
  latestFirst : listing.Pairwise fun a b => timeOf b ≤ timeOf a
  slices : ∀ offset, taken offset → ask offset = .ok (pageOf limit listing offset)
  ends : ∃ pages, Reading ask 0 pages
  whole : ∀ pages, Reading ask 0 pages → pages.flatMap Page.rows = listing ∧
    ∃ front final, pages = front ++ [final] ∧ (∀ page ∈ front, page.rows.length = limit) ∧
      final.rows.length < limit

/-- A limit that is asked for is brought between one and one thousand. -/
theorem clampedLimit_bounds (limit : Option Nat) (default : Nat) :
    1 ≤ clampedLimit limit default ∧ clampedLimit limit default ≤ 1000 := by
  rw [clampedLimit, greatestLimit]
  omega

/-- Paging through a listing is as it should be if its slices are given. -/
theorem Pages.of_slices {ask : Nat → Except QuestionFault Page} {taken : Nat → Prop}
    {range : TimeRange} {rows listing : List Row} {tie : Row → Row → Prop} (limit : Option Nat)
    (lists : Lists range rows tie listing) (room : ∀ offset ≤ listing.length, taken offset)
    (slices : ∀ offset, taken offset →
      ask offset = .ok (pageOf (clampedLimit limit defaultPage) listing offset)) :
    Pages ask taken range rows (clampedLimit limit defaultPage) listing := by
  have limits := clampedLimit_bounds limit defaultPage
  have inside offset (h : offset ≤ listing.length) := slices offset (room offset h)
  refine ⟨limits, lists.perm, lists.ordered.imp And.left, slices, ?_, fun pages reading => ?_⟩
  · exact exists_reading limits.1 inside (Nat.zero_le _)
  · exact reading.whole inside (Nat.zero_le _)

/-- The page at an offset, as it is asked for at some time. -/
def pageAt {σ : Type} [Repository σ] (q : Query) (clock : Nat → Instant) (store : σ)
    (offset : Nat) : Except QuestionFault Page :=
  page { q with offset := some offset } (clock offset) store

theorem pageAt_eq {σ : Type} [Repository σ] {q : Query} {clock : Nat → Instant} {range : TimeRange}
    (asked : ∀ offset, rangeOf q (clock offset) = .ok range) (store : σ) (offset : Nat) :
    pageAt q clock store offset =
      (ofStore (Repository.page range (clampedLimit q.limit defaultPage) offset store)).map
        (⟨·, clampedLimit q.limit defaultPage, offset⟩) := by
  have asked : rangeOf { q with offset := some offset } (clock offset) = .ok range := asked offset
  rw [pageAt, page, asked]
  rfl

/-- Paging loses and repeats no row. The store in memory takes any offset, a database one that fits
a signed word; a request with a greater one is broken off. -/
theorem paging_complete {q : Query} {clock : Nat → Instant} {range : TimeRange}
    (asked : ∀ offset, rangeOf q (clock offset) = .ok range)
    (clocks : ∀ offset, (clock offset).OnClock)
    (digits : range.start.HasFourDigits ∧ range.stop.HasFourDigits) :
    (∀ m : Memory, ∃ listing, Pages (pageAt q clock m) (fun _ => True) range m.rows
      (clampedLimit q.limit defaultPage) listing) ∧
    ∀ (d : Database) (t : Table), d.table = some t → (∀ r ∈ t.rows, (timeOf r).OnClock) →
      t.rows.length < 2 ^ 63 →
      (∃ listing, Pages (pageAt q clock d) (· < 2 ^ 63) range t.rows
        (clampedLimit q.limit defaultPage) listing) ∧
      ∀ offset, 2 ^ 63 ≤ offset → pageAt q clock d offset = .error (.store .brokenOff) := by
  refine ⟨fun m => ?_, fun d t table rows count => ⟨?_, fun offset large => ?_⟩⟩
  · have anyOrder : m.rows.Pairwise fun _ _ => True := List.pairwise_of_forall fun _ _ => trivial
    refine ⟨_, .of_slices q.limit (Memory.lists m anyOrder) (fun _ _ => trivial) ?_⟩
    intro offset _
    rw [pageAt_eq asked, Memory.page_eq]
    rfl
  · have ends := onClock_of_resolveRange (clocks 0) (rangeOf_eq_ok.mp (asked 0))
    have plain : range.HasFourDigits := ⟨ends.1, ends.2, digits.1, digits.2⟩
    have anyOrder : t.rows.Pairwise fun _ _ => True := List.pairwise_of_forall fun _ _ => trivial
    have lists := Database.lists plain rows anyOrder
    have room : (Database.within range t.rows).reverse.length ≤ t.rows.length := by
      rw [lists.perm.length_eq]
      exact List.length_filter_le _ _
    refine ⟨_, .of_slices q.limit lists (fun offset inside => by omega) ?_⟩
    intro offset small
    have limit : clampedLimit q.limit defaultPage < 2 ^ 63 :=
      (clampedLimit_bounds _ _).2.trans_lt (by decide)
    rw [pageAt_eq asked, Database.page_eq table limit small]
    rfl
  · rw [pageAt_eq asked, Database.page_brokenOff d range _ large]
    rfl

/-- A question for the first of March, two rows at a time. -/
def firstOfMarch : Query where
  start := some "2025-03-01T00:00:00Z"
  stop := some "2025-03-01T23:59:60Z"
  limit := some 2

theorem rangeOf_firstOfMarch (now : Instant) :
    rangeOf firstOfMarch now = .ok ⟨⟨1740787200, 0⟩, ⟨1740873599, 1000000000⟩⟩ := by
  show rangeOf firstOfMarch ⟨0, 0⟩ = _
  decide +kernel

/-- Three records of the first of March, two of them at one instant, and one on the next day. -/
def marchRows : List Row :=
  numbered 0 [recordAt ⟨1740830400, 0⟩ 443, recordAt ⟨1740830400, 0⟩ 444,
    recordAt ⟨1740787200, 0⟩ 443, recordAt ⟨1740873600, 0⟩ 443]

theorem paging_complete_march :
    (∃ pages, Reading (pageAt firstOfMarch (⟨·, 0⟩) ({ rows := marchRows } : Memory)) 0 pages ∧
      (pages.flatMap Page.rows).Perm (marchRows.take 3)) ∧
    ∃ pages, Reading (pageAt firstOfMarch (⟨·, 0⟩)
        ({ table := some { rows := marchRows } } : Database)) 0 pages ∧
      (pages.flatMap Page.rows).Perm (marchRows.take 3) := by
  have inside :
      rowsIn ⟨⟨1740787200, 0⟩, ⟨1740873599, 1000000000⟩⟩ marchRows = marchRows.take 3 := by
    decide
  obtain ⟨memory, database⟩ := @paging_complete firstOfMarch (⟨·, 0⟩) _
    (fun _ => rangeOf_firstOfMarch _) (fun _ => .inl (by decide : 0 < Instant.second)) (by decide)
  obtain ⟨listing, paging⟩ := memory { rows := marchRows }
  obtain ⟨⟨listing', paging'⟩, -⟩ :=
    database { table := some { rows := marchRows } } { rows := marchRows } rfl (by decide)
      (by decide)
  obtain ⟨pages, reading⟩ := paging.ends
  obtain ⟨pages', reading'⟩ := paging'.ends
  refine ⟨⟨pages, reading, ?_⟩, pages', reading', ?_⟩
  · rw [(paging.whole pages reading).1, ← inside]
    exact paging.perm
  · rw [(paging'.whole pages' reading').1, ← inside]
    exact paging'.perm

/-- An offset can be a word that is too great for one with a sign; a database then gives no page. -/
theorem pageAt_unsignedOffset :
    2 ^ 63 ≤ Query.greatest ∧
      pageAt firstOfMarch (⟨·, 0⟩) (Database.migrateUp {}) (2 ^ 63) =
        .error (.store .brokenOff) ∧
      ∀ listing, pageAt firstOfMarch (⟨·, 0⟩) (Database.migrateUp {}) (2 ^ 63) ≠
        .ok (pageOf (clampedLimit (some 2) defaultPage) listing (2 ^ 63)) := by
  have broken : pageAt firstOfMarch (⟨·, 0⟩) (Database.migrateUp {}) (2 ^ 63) =
      .error (.store .brokenOff) := by
    rw [pageAt_eq fun offset => rangeOf_firstOfMarch ⟨offset, 0⟩]
    rfl
  refine ⟨by decide, broken, fun listing => ?_⟩
  rw [broken]
  simp

end ProxyMeter.Api
