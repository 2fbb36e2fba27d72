import ProxyMeter.Proofs.Store.Memory
import ProxyMeter.Proofs.Text.ByteOrder

/-!
# The largest groups

The groups of the rows in memory are a function of the rows without their order: every key has one
group, of exactly the rows that carry it, and the groups are in an order that leaves no choice. So
neither the order in which rows were added nor that of a table of totals shows in an answer, and a
longer answer begins with every shorter one.
-/

namespace ProxyMeter.Store

open Traffic

namespace Grouping

/-- The key of an event. -/
def nameOf : Grouping → Event → String
  | .domain, e => e.domain
  | .sourceIp, e => e.sourceIp

/-- Whether the rows of a key are grouped. -/
def keeps : Grouping → String → Bool
  | .domain, key => key ≠ ""
  | .sourceIp, _ => true

theorem key_eq (g : Grouping) (r : Row) : g.key r = g.nameOf r.record.event := by
  cases g <;> rfl

theorem members_eq (g : Grouping) (rows : List Row) :
    g.members rows = rows.filter fun r => g.keeps (g.key r) := by
  cases g with
  | domain => rfl
  | sourceIp => exact (List.filter_eq_self.mpr fun _ _ => rfl).symm

/-- The rows that carry a key. -/
def carriers (g : Grouping) (rows : List Row) (key : String) : List Row :=
  rows.filter fun r => g.nameOf r.record.event == key

theorem carriers_eq (g : Grouping) (rows : List Row) (key : String) :
    g.carriers rows key = rows.filter fun r => g.key r == key := by
  simp only [carriers, key_eq]

/-- The events of the rows that carry a key. -/
theorem events_carriers (g : Grouping) (rows : List Row) (key : String) :
    events (g.carriers rows key) = (events rows).filter fun e => g.nameOf e == key := by
  rw [events, events, List.filter_map]
  rfl

/-- All keys of the rows that are grouped, each of them once. -/
def keysOf (g : Grouping) (rows : List Row) : List String :=
  ((g.members rows).map g.key).eraseDups

theorem mem_keysOf_iff {g : Grouping} {rows : List Row} {key : String} :
    key ∈ g.keysOf rows ↔ g.keeps key = true ∧ ∃ r ∈ rows, g.key r = key := by
  rw [keysOf, List.mem_eraseDups, List.mem_map, members_eq]
  constructor
  · rintro ⟨r, member, rfl⟩
    obtain ⟨there, kept⟩ := List.mem_filter.mp member
    exact ⟨kept, r, there, rfl⟩
  · rintro ⟨kept, r, there, rfl⟩
    exact ⟨r, List.mem_filter.mpr ⟨there, kept⟩, rfl⟩

/-- Some row carries a key that rows are grouped by. -/
theorem length_carriers_ne {g : Grouping} {rows : List Row} {key : String}
    (known : key ∈ g.keysOf rows) : (g.carriers rows key).length ≠ 0 := by
  obtain ⟨-, r, there, carries⟩ := mem_keysOf_iff.mp known
  have member : r ∈ g.carriers rows key := by
    rw [carriers_eq]
    exact List.mem_filter.mpr ⟨there, beq_iff_eq.mpr carries⟩
  exact (List.length_pos_of_mem member).ne'

/-- Keys do not depend on the order of the rows. -/
theorem keysOf_perm (g : Grouping) {rows rows' : List Row}
    (same : (events rows).Perm (events rows')) :
    (g.keysOf rows).Perm (g.keysOf rows') := by
  have carried (rows : List Row) (key : String) :
      (∃ r ∈ rows, g.key r = key) ↔ ∃ e ∈ events rows, g.nameOf e = key := by
    simp [events, key_eq]
  refine (List.perm_ext_iff_of_nodup (nodup_eraseDups _) (nodup_eraseDups _)).mpr fun key => ?_
  refine mem_keysOf_iff.trans (Iff.trans ?_ mem_keysOf_iff.symm)
  rw [carried, carried]
  simp only [same.mem_iff]

end Grouping

/-- The groups of rows are summarised key by key. -/
theorem summaries_eq (g : Grouping) (rows : List Row) : summaries g rows =
    (g.keysOf rows).map fun key => ⟨key, summaryOf (events (g.carriers rows key))⟩ := by
  rw [summaries, grouped, List.map_map]
  refine List.map_congr_left fun key member => ?_
  have kept : g.keeps key = true := (Grouping.mem_keysOf_iff.mp member).1
  have own : (g.members rows).filter (fun r => g.key r == key) = g.carriers rows key := by
    rw [Grouping.members_eq, List.filter_filter, Grouping.carriers_eq]
    refine List.filter_congr fun r _ => ?_
    cases same : g.key r == key with
    | false => rfl
    | true => rw [eq_of_beq same, kept, Bool.and_true]
  rw [Function.comp_apply, own]

theorem keys_summaries (g : Grouping) (rows : List Row) :
    (summaries g rows).map Ranked.key = g.keysOf rows := by
  simp [summaries_eq, Function.comp_def]

/-- Groups do not depend on the order of the rows. -/
theorem summaries_perm (g : Grouping) {rows rows' : List Row}
    (same : (events rows).Perm (events rows')) : (summaries g rows).Perm (summaries g rows') := by
  have own (key : String) : summaryOf (events (g.carriers rows key)) =
      summaryOf (events (g.carriers rows' key)) := by
    rw [Grouping.events_carriers, Grouping.events_carriers]
    exact summaryOf_perm (same.filter _)
  rw [summaries_eq, summaries_eq]
  simp only [own]
  exact (g.keysOf_perm same).map _

/-! ### The order of groups -/

namespace Ranked

theorem atOrBefore_iff {a b : Ranked} : a.atOrBefore b = true ↔
    b.summary.count < a.summary.count ∨ a.summary.count = b.summary.count ∧ a.key ≤ b.key := by
  simp [atOrBefore]

theorem atOrBefore_trans (a b c : Ranked) (first : a.atOrBefore b = true)
    (second : b.atOrBefore c = true) : a.atOrBefore c = true := by
  rw [atOrBefore_iff] at *
  obtain more | ⟨same, least⟩ := first
  · obtain more' | ⟨same', -⟩ := second
    · exact .inl (by omega)
    · exact .inl (by omega)
  · obtain more' | ⟨same', least'⟩ := second
    · exact .inl (by omega)
    · exact .inr ⟨by omega, least.trans least'⟩

theorem atOrBefore_total (a b : Ranked) : (a.atOrBefore b || b.atOrBefore a) = true := by
  rw [Bool.or_eq_true, atOrBefore_iff, atOrBefore_iff]
  obtain fewer | same | more := Nat.lt_trichotomy a.summary.count b.summary.count
  · exact .inr (.inl fewer)
  · exact (le_total a.key b.key).imp (fun least => .inr ⟨same, least⟩)
      fun least => .inr ⟨same.symm, least⟩
  · exact .inl (.inl more)

/-- Groups that come before each other have one key. -/
theorem key_eq_of_atOrBefore {a b : Ranked} (first : a.atOrBefore b = true)
    (second : b.atOrBefore a = true) : a.key = b.key := by
  rw [atOrBefore_iff] at *
  obtain more | ⟨same, least⟩ := first
  · omega
  · obtain more' | ⟨same', least'⟩ := second
    · omega
    · exact le_antisymm least least'

/-- A group comes before another: it has more rows, or as many and the bytes of its key are less. -/
def Before (a b : Ranked) : Prop :=
  b.summary.count < a.summary.count ∨
    a.summary.count = b.summary.count ∧ Text.utf8 a.key < Text.utf8 b.key

end Ranked

section Sorting

variable {groups groups' : List Ranked}

theorem perm_ranked (groups : List Ranked) : (ranked groups).Perm groups :=
  List.mergeSort_perm _ _

theorem pairwise_ranked (groups : List Ranked) :
    (ranked groups).Pairwise fun a b => a.atOrBefore b = true :=
  List.pairwise_mergeSort Ranked.atOrBefore_trans Ranked.atOrBefore_total groups

/-- Groups with different keys come one before the other. -/
theorem pairwise_before (once : (groups.map Ranked.key).Nodup) :
    (ranked groups).Pairwise Ranked.Before := by
  have distinct : (ranked groups).Pairwise fun a b => a.key ≠ b.key :=
    List.pairwise_map.mp (((perm_ranked groups).map Ranked.key).nodup_iff.mpr once)
  refine ((pairwise_ranked groups).and distinct).imp fun ⟨before, other⟩ => ?_
  obtain more | ⟨same, least⟩ := Ranked.atOrBefore_iff.mp before
  · exact .inl more
  · exact .inr ⟨same, Text.utf8_lt_iff.mpr (lt_of_le_of_ne least other)⟩

/-- Groups with different keys have one order only. -/
theorem ranked_eq_of_perm (same : groups.Perm groups') (once : (groups.map Ranked.key).Nodup) :
    ranked groups = ranked groups' := by
  have all := (perm_ranked groups).trans (same.trans (perm_ranked groups').symm)
  refine List.Perm.eq_of_pairwise (fun a b ha hb first second => ?_) (pairwise_ranked groups)
    (pairwise_ranked groups') all
  have member : a ∈ groups := (perm_ranked groups).subset ha
  have member' : b ∈ groups := same.symm.subset ((perm_ranked groups').subset hb)
  exact List.inj_on_of_nodup_map once member member' (Ranked.key_eq_of_atOrBefore first second)

end Sorting

/-! ### Parts -/

/-- The rows of different keys, key by key, are the rows with one of the keys. -/
theorem flatMap_carriers_perm (g : Grouping) (rows : List Row) {keys : List String}
    (once : keys.Nodup) :
    (keys.flatMap (g.carriers rows)).Perm (rows.filter fun r => decide (g.key r ∈ keys)) := by
  induction keys with
  | nil => simp
  | cons key keys ih =>
    rw [List.nodup_cons] at once
    have split := (List.filter_append_perm (fun r => g.key r == key)
      (rows.filter fun r => decide (g.key r ∈ key :: keys))).symm
    have own : (rows.filter fun r => decide (g.key r ∈ key :: keys)).filter
        (fun r => g.key r == key) = g.carriers rows key := by
      rw [List.filter_filter, Grouping.carriers_eq]
      refine List.filter_congr fun r _ => ?_
      cases same : g.key r == key with
      | false => rfl
      | true => simp [eq_of_beq same]
    have others : (rows.filter fun r => decide (g.key r ∈ key :: keys)).filter
        (fun r => !(g.key r == key)) = rows.filter fun r => decide (g.key r ∈ keys) := by
      rw [List.filter_filter]
      refine List.filter_congr fun r _ => ?_
      by_cases same : g.key r = key
      · simp [same, once.1]
      · simp [same]
    rw [own, others] at split
    rw [List.flatMap_cons]
    exact ((ih once.2).append_left _).trans split.symm

/-- The keys of the rows that are grouped are those of no other rows. -/
theorem filter_keysOf (g : Grouping) (rows : List Row) :
    rows.filter (fun r => decide (g.key r ∈ g.keysOf rows)) = g.members rows := by
  rw [Grouping.members_eq]
  refine List.filter_congr fun r member => ?_
  rw [Bool.eq_iff_iff, decide_eq_true_eq, Grouping.mem_keysOf_iff]
  exact and_iff_left ⟨r, member, rfl⟩

/-! ### Answers -/

/-- All groups of some rows, in their order. -/
structure Groups (g : Grouping) (rows : List Row) (groups : List Ranked) : Prop where
  once : (groups.map Ranked.key).Nodup
  /-- Every key has a group that some row carries and that is not left out. -/
  keys : ∀ key, key ∈ groups.map Ranked.key ↔
    g.keeps key = true ∧ ∃ r ∈ rows, g.nameOf r.record.event = key
  /-- A group has the number of the rows that carry its key, and the sums over them. -/
  sums : ∀ r ∈ groups, r.summary = summaryOf (events (g.carriers rows r.key))
  /-- The average is the sum of the latencies of these rows over their number, which is not zero. -/
  averages : ∀ r ∈ groups, (g.carriers rows r.key).length ≠ 0 ∧ r.summary.averageLatency =
    Float.ofInt ((g.carriers rows r.key).map (·.record.event.latencyMs)).sum /
      Float.ofNat (g.carriers rows r.key).length
  order : groups.Pairwise Ranked.Before
  /-- Every row that is not left out is in one group. -/
  parts : (groups.flatMap fun r => g.carriers rows r.key).Perm
    (rows.filter fun r => g.keeps (g.nameOf r.record.event))

/-- The groups of rows. -/
theorem groups_ranked (g : Grouping) (rows : List Row) :
    Groups g rows (ranked (summaries g rows)) := by
  have all := perm_ranked (summaries g rows)
  have once : ((summaries g rows).map Ranked.key).Nodup := by
    rw [keys_summaries]
    exact nodup_eraseDups _
  have sums (r : Ranked) (member : r ∈ ranked (summaries g rows)) :
      r.key ∈ g.keysOf rows ∧ r.summary = summaryOf (events (g.carriers rows r.key)) := by
    rw [all.mem_iff, summaries_eq] at member
    obtain ⟨key, known, rfl⟩ := List.mem_map.mp member
    exact ⟨known, rfl⟩
  refine ⟨(all.map _).nodup_iff.mpr once, fun key => ?_, fun r member => (sums r member).2,
    fun r member => ?_, pairwise_before once, ?_⟩
  · rw [(all.map _).mem_iff, keys_summaries, Grouping.mem_keysOf_iff]
    simp only [Grouping.key_eq]
  · obtain ⟨known, summary⟩ := sums r member
    have some := Grouping.length_carriers_ne known
    rw [summary, summaryOf, length_events, if_neg some, ← latencies_eq]
    exact ⟨some, rfl⟩
  · refine (all.flatMap_right _).trans ?_
    have parts := flatMap_carriers_perm g rows (nodup_eraseDups ((g.members rows).map g.key))
    rw [← List.flatMap_map Ranked.key (g.carriers rows), keys_summaries]
    refine parts.trans (.of_eq ((filter_keysOf g rows).trans ?_))
    simp only [Grouping.members_eq, Grouping.key_eq]

/-- The table of rows that add up has the groups of the rows. -/
theorem exists_table (g : Grouping) {rows : List Row} (h : Addable (events rows)) :
    ∃ table, Totals.table? g.key (g.members rows) = some table ∧
      table.map Totals.ranked = summaries g rows := by
  have found := Totals.mapM_summarise ((g.members rows).map g.key).eraseDups fun key =>
    (g.members rows).filter (g.key · == key)
  have groups : ((g.members rows).map g.key).eraseDups.mapM (fun key =>
      (Memory.summarise ((g.members rows).filter (g.key · == key))).map (Ranked.mk key)) =
        .ok (summaries g rows) := by
    have one := mapM_grouped g (fun _ => Memory.summarise_eq) h
    rwa [grouped, List.mapM_map] at one
  rw [groups, ← Totals.table?_eq] at found
  cases there : Totals.table? g.key (g.members rows) with
  | none => simp [there] at found
  | some table =>
    simp only [there] at found
    exact ⟨table, rfl, (Except.ok.inj found).symm⟩

/-- Whatever the order in which a table has its entries, the largest groups are the first. -/
theorem Memory.topIn_eq {order : List (String × Totals) → List (String × Totals)}
    (reorders : ∀ table, (order table).Perm table) (g : Grouping) (limit : Nat) {m : Memory}
    (h : Addable (events m.rows)) :
    topIn order g limit m = .ok ((ranked (summaries g m.rows)).take limit) := by
  obtain ⟨table, found, groups⟩ := exists_table g h
  have same : ((order table).map Totals.ranked).Perm (summaries g m.rows) := by
    rw [← groups]
    exact (reorders table).map _
  have once : (((order table).map Totals.ranked).map Ranked.key).Nodup := by
    rw [(same.map _).nodup_iff, keys_summaries]
    exact nodup_eraseDups _
  rw [topIn, found]
  refine congrArg Except.ok ?_
  rw [← ranked_eq_of_perm same once, ← Totals.map_ranked_mergeSort, ← List.map_take]
  rfl

/-- What is known of the answers about the largest groups: they are the first of all groups. -/
structure Ranks (g : Grouping) (m : Memory) (groups : List Ranked) : Prop where
  all : Groups g m.rows groups
  answer : ∀ limit, Repository.top g limit m = .ok (groups.take limit)
  /-- A longer answer begins with a shorter one. -/
  grows : ∀ limit longer answer answer', limit ≤ longer →
    Repository.top g limit m = .ok answer → Repository.top g longer m = .ok answer' →
      answer <+: answer'
  /-- The answer is the same wherever the same events were stored in any order, and whatever the
  order in which a table has its entries. -/
  anyOrder : ∀ m' : Memory, (events m'.rows).Perm (events m.rows) →
    ∀ order, (∀ table, (order table).Perm table) →
      ∀ limit, m'.topIn order g limit = .ok (groups.take limit)

/-- If what is stored in memory adds up, the answers about the largest groups, of either kind, are
the first of all groups. -/
theorem exists_ranks {m : Memory} (addable : Addable (events m.rows)) (g : Grouping) :
    ∃ groups, Ranks g m groups := by
  have answer (limit : Nat) :
      Repository.top g limit m = .ok ((ranked (summaries g m.rows)).take limit) :=
    Memory.topIn_eq (fun _ => .refl _) g limit addable
  refine ⟨ranked (summaries g m.rows), {
    all := groups_ranked g m.rows
    answer
    grows := fun limit longer shorter longerAnswer least found found' => ?_
    anyOrder := fun m' same order reorders limit => ?_ }⟩
  · cases (answer limit).symm.trans found
    cases (answer longer).symm.trans found'
    exact List.take_prefix_take_left least
  · have once : ((summaries g m'.rows).map Ranked.key).Nodup := by
      rw [keys_summaries]
      exact nodup_eraseDups _
    rw [Memory.topIn_eq reorders g limit (addable.perm same),
      ranked_eq_of_perm (summaries_perm g same) once]

private def request (domain sourceIp : String) (latencyMs : Int) : Row where
  id := 0
  record :=
    { event :=
        { sourceIp, destinationIp := "93.184.216.34", domain, port := 443
          timestamp := ⟨1740830400, 0⟩, latencyMs, bytesIn := 300, bytesOut := 200
          transport := transportTcp }
      createdAt := ⟨1740830400, 0⟩ }

private def requests : Memory where
  rows := [request "b.org" "10.0.0.2" 20, request "" "10.0.0.1" 5, request "a.org" "10.0.0.1" 10,
    request "b.org" "10.0.0.1" 30, request "c.org" "10.0.0.3" 10]

/-- Of three names one was asked for twice, with dials that took 25 milliseconds on average. -/
theorem exists_ranks_requests : Addable (events requests.rows) ∧
    ∃ groups, Ranks .domain requests groups ∧
      ∃ r ∈ groups, r.key = "b.org" ∧ r.summary.count = 2 ∧ r.summary.averageLatency = 25 := by
  have addable : Addable (events requests.rows) := by decide
  obtain ⟨groups, ranks⟩ := exists_ranks addable .domain
  obtain ⟨r, member, named⟩ := List.mem_map.mp ((ranks.all.keys "b.org").mpr (by decide))
  refine ⟨addable, groups, ranks, r, member, named, ?_, ?_⟩
  · rw [ranks.all.sums r member, named]
    rfl
  · rw [(ranks.all.averages r member).2, named]
    rfl

end ProxyMeter.Store
