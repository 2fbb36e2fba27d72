import Mathlib.Algebra.Order.BigOperators.Group.List
import Mathlib.Algebra.BigOperators.Group.List.Basic
import ProxyMeter.Proofs.Chains
import ProxyMeter.Proofs.Pipeline.Accounting
import ProxyMeter.Proofs.Store.Saving
import ProxyMeter.Proofs.Store.Totals

/-!
# What the store in memory reports

The store keeps the records of the batches that it took, in their order. As long as no sum leaves a
signed word, a summary has the number of rows and the sums over them, and the largest groups are all
the groups if there is room for so many.
-/

namespace ProxyMeter.Store

open Calendar Pipeline Traffic

/-! ### Sums -/

/-- Integers that are not negative and add up to a signed word. -/
def Within (xs : List Int) : Prop := (∀ x ∈ xs, 0 ≤ x) ∧ xs.sum ≤ greatestWord

instance (xs : List Int) : Decidable (Within xs) := inferInstanceAs (Decidable (_ ∧ _))

/-- Fewer summands stay within a word. -/
theorem Within.sublist {xs ys : List Int} (h : Within ys) (fewer : xs.Sublist ys) : Within xs :=
  ⟨fun x member => h.1 x (fewer.subset member), (fewer.sum_le_sum h.1).trans h.2⟩

/-- The order of the summands does not matter. -/
theorem Within.perm {xs ys : List Int} (h : Within ys) (same : xs.Perm ys) : Within xs :=
  ⟨fun x member => h.1 x (same.subset member), same.sum_eq.trans_le h.2⟩

private theorem sumFrom_eq_some {xs : List Int} {start : Int} (begun : 0 ≤ start)
    (nonneg : ∀ x ∈ xs, 0 ≤ x) (fits : start + xs.sum ≤ greatestWord) :
    xs.foldlM (fun sum x =>
      if leastWord ≤ sum + x ∧ sum + x ≤ greatestWord then some (sum + x) else none) start =
        some (start + xs.sum) := by
  induction xs generalizing start with
  | nil => simp
  | cons x xs ih =>
    have first : 0 ≤ x := nonneg x (.head _)
    have rest : ∀ y ∈ xs, 0 ≤ y := fun y member => nonneg y (.tail _ member)
    have more : 0 ≤ xs.sum := List.sum_nonneg rest
    have least : leastWord ≤ 0 := by decide
    rw [List.sum_cons] at fits
    rw [List.foldlM_cons, if_pos ⟨by omega, by omega⟩, List.sum_cons]
    show xs.foldlM _ (start + x) = _
    rw [ih (by omega) rest (by omega), Int.add_assoc]

/-- A sum that stays within a word is found. -/
theorem sumWithin?_eq_some {xs : List Int} (h : Within xs) : sumWithin? xs = some xs.sum := by
  rw [sumWithin?, sumFrom_eq_some (Int.le_refl 0) h.1 (by rw [Int.zero_add]; exact h.2),
    Int.zero_add]

/-- As many keys are left when the order is another. -/
theorem length_eraseDups_of_perm {α : Type} [BEq α] [LawfulBEq α] {xs ys : List α}
    (same : xs.Perm ys) : xs.eraseDups.length = ys.eraseDups.length := by
  apply List.Perm.length_eq
  rw [List.perm_ext_iff_of_nodup (nodup_eraseDups xs) (nodup_eraseDups ys)]
  intro x
  rw [List.mem_eraseDups, List.mem_eraseDups, same.mem_iff]

/-- The events that rows were made of. -/
def events (rows : List Row) : List Event := rows.map (·.record.event)

/-- Events whose counts and latencies stay within a word when they are added up. -/
structure Addable (es : List Event) : Prop where
  bytesIn : Within (es.map (·.bytesIn))
  bytesOut : Within (es.map (·.bytesOut))
  latencies : Within (es.map (·.latencyMs))

instance (es : List Event) : Decidable (Addable es) :=
  decidable_of_iff (Within (es.map (·.bytesIn)) ∧ Within (es.map (·.bytesOut)) ∧
      Within (es.map (·.latencyMs)))
    ⟨fun ⟨into, out, latency⟩ => ⟨into, out, latency⟩,
      fun h => ⟨h.bytesIn, h.bytesOut, h.latencies⟩⟩

theorem Addable.sublist {es es' : List Event} (h : Addable es') (fewer : es.Sublist es') :
    Addable es :=
  ⟨h.bytesIn.sublist (fewer.map _), h.bytesOut.sublist (fewer.map _),
    h.latencies.sublist (fewer.map _)⟩

theorem Addable.perm {es es' : List Event} (h : Addable es') (same : es.Perm es') : Addable es :=
  ⟨h.bytesIn.perm (same.map _), h.bytesOut.perm (same.map _), h.latencies.perm (same.map _)⟩

/-- The number of events, the sums over them, and the sum of the latencies over the number. -/
def summaryOf (es : List Event) : Summary where
  count := es.length
  bytesIn := (es.map (·.bytesIn)).sum
  bytesOut := (es.map (·.bytesOut)).sum
  averageLatency :=
    if es.length = 0 then 0 else Float.ofInt (es.map (·.latencyMs)).sum / Float.ofNat es.length

/-- A summary does not depend on the order of the events. -/
theorem summaryOf_perm {es es' : List Event} (same : es.Perm es') :
    summaryOf es = summaryOf es' := by
  rw [summaryOf, summaryOf, same.length_eq, (same.map _).sum_eq, (same.map _).sum_eq,
    (same.map _).sum_eq]

@[simp]
theorem length_events (rows : List Row) : (events rows).length = rows.length :=
  List.length_map _

section

variable {rows : List Row}

theorem bytesIn_eq (rows : List Row) : bytesIn rows = (events rows).map (·.bytesIn) := by
  rw [events, List.map_map]
  rfl

theorem bytesOut_eq (rows : List Row) : bytesOut rows = (events rows).map (·.bytesOut) := by
  rw [events, List.map_map]
  rfl

theorem latencies_eq (rows : List Row) : latencies rows = (events rows).map (·.latencyMs) := by
  rw [events, List.map_map]
  rfl

/-- The groups of rows with what their events add up to. -/
def summaries (g : Grouping) (rows : List Row) : List Ranked :=
  (grouped g.key (g.members rows)).map fun group => ⟨group.1, summaryOf (events group.2)⟩

/-- A group has some of the rows. -/
theorem sublist_of_mem_grouped {g : Grouping} {group : String × List Row}
    (h : group ∈ grouped g.key (g.members rows)) : group.2.Sublist rows := by
  have members : (g.members rows).Sublist rows := by
    cases g with
    | domain => exact List.filter_sublist
    | sourceIp => exact .refl _
  obtain ⟨key, -, rfl⟩ := List.mem_map.mp h
  exact List.filter_sublist.trans members

/-- Groups are summarised one by one. -/
theorem mapM_grouped (g : Grouping) {summarise : List Row → Except Fault Summary}
    (sums : ∀ rows, Addable (events rows) → summarise rows = .ok (summaryOf (events rows)))
    (h : Addable (events rows)) : (grouped g.key (g.members rows)).mapM
      (fun group => (summarise group.2).map (Ranked.mk group.1)) = .ok (summaries g rows) := by
  apply mapM_eq_ok
  intro group member
  rw [sums _ (h.sublist ((sublist_of_mem_grouped member).map _))]
  rfl

end

namespace Memory

/-- Rows are summarised by the number of their events and the sums over them. -/
theorem summarise_eq {rows : List Row} (h : Addable (events rows)) :
    summarise rows = .ok (summaryOf (events rows)) := by
  rw [summarise, bytesIn_eq, bytesOut_eq, latencies_eq, sumWithin?_eq_some h.bytesIn,
    sumWithin?_eq_some h.bytesOut, sumWithin?_eq_some h.latencies, ← length_events]
  rfl

/-- A summary over a range is that of the events in it. -/
theorem summary_within (range : TimeRange) {m : Memory} (h : Addable (events m.rows)) :
    Repository.summary range m = .ok (summaryOf (events (m.within range))) :=
  summarise_eq (h.sublist (List.filter_sublist.map _))

/-- A summary over a range that holds all events is that of all events. -/
theorem summary_eq {range : TimeRange} {m : Memory}
    (holds : ∀ e ∈ events m.rows, range.holds e.timestamp = true) (h : Addable (events m.rows)) :
    Repository.summary range m = .ok (summaryOf (events m.rows)) := by
  have all : m.within range = m.rows := by
    rw [within, List.filter_eq_self]
    exact fun r member => holds _ (List.mem_map_of_mem member)
  rw [summary_within range h, all]

/-- The groups are ranked, and the largest are taken. -/
theorem top_eq (g : Grouping) (limit : Nat) {m : Memory} (h : Addable (events m.rows)) :
    top g limit m = .ok ((ranked (summaries g m.rows)).take limit) := by
  rw [top_eq_grouped]
  exact congrArg (fun groups => groups.bind fun groups => .ok ((ranked groups).take limit))
    (mapM_grouped g (fun _ => summarise_eq) h)

/-- If there is room for all clients, each of them has one group, with the number of its events and
the sums over them. -/
theorem top_sourceIp {limit : Nat} {m : Memory} (h : Addable (events m.rows))
    (room : ((events m.rows).map (·.sourceIp)).eraseDups.length ≤ limit) :
    ∃ groups, Repository.top .sourceIp limit m = .ok groups ∧ (groups.map Ranked.key).Nodup ∧
      (∀ ip, ip ∈ groups.map Ranked.key ↔ ip ∈ (events m.rows).map (·.sourceIp)) ∧
        ∀ g ∈ groups, g.summary = summaryOf ((events m.rows).filter (·.sourceIp == g.key)) := by
  have keys : m.rows.map Grouping.sourceIp.key = (events m.rows).map (·.sourceIp) := by
    simp [events, Grouping.key]
  have own (ip : String) : events (m.rows.filter fun r => Grouping.sourceIp.key r == ip) =
      (events m.rows).filter (·.sourceIp == ip) := by
    rw [events, events, List.filter_map]
    rfl
  have groups : summaries .sourceIp m.rows =
      ((events m.rows).map (·.sourceIp)).eraseDups.map fun ip =>
        ⟨ip, summaryOf ((events m.rows).filter (·.sourceIp == ip))⟩ := by
    simp [summaries, grouped, Grouping.members, keys, own]
  have all := List.mergeSort_perm (((events m.rows).map (·.sourceIp)).eraseDups.map fun ip =>
    (⟨ip, summaryOf ((events m.rows).filter (·.sourceIp == ip))⟩ : Ranked)) Ranked.atOrBefore
  have names := all.map Ranked.key
  simp only [List.map_map, Function.comp_def, List.map_id'] at names
  -- Ranking only reorders the groups, and taking `limit` of them leaves none out.
  refine ⟨_, (top_eq .sourceIp limit h).trans ?_, names.nodup_iff.mpr (nodup_eraseDups _), ?_, ?_⟩
  · rw [groups, ranked, List.take_of_length_le]
    rw [all.length_eq, List.length_map]
    exact room
  · intro ip
    rw [names.mem_iff, List.mem_eraseDups]
  · intro g member
    obtain ⟨ip, -, rfl⟩ := List.mem_map.mp (all.subset member)
    rfl

/-- The store in memory takes all records as long as writing is on. -/
theorem saveAll_eq {m : Memory} (on : m.writesOff = false) (batches : List (List Record)) :
    ∃ m', saveAll m batches = .ok m' ∧
      m'.rows = m.rows ++ numbered m.rows.length batches.flatten := by
  induction batches generalizing m with
  | nil => exact ⟨m, rfl, by simp [numbered]⟩
  | cons records rest ih =>
    obtain ⟨m', saved, rows⟩ := ih (m := { m with
      rows := m.rows ++ numbered m.rows.length records
      batches := m.batches ++ [records.length] }) on
    refine ⟨m', ?_, ?_⟩
    · rw [saveAll, List.foldlM_cons]
      show (Memory.save records m).bind _ = _
      rw [Memory.save_eq, if_neg (by simp [on])]
      exact saved
    · rw [rows, List.flatten_cons, numbered_append, List.append_assoc, List.length_append,
        length_numbered]

/-- The store keeps the records of the batches that it took, in their order. -/
theorem rows_saveAll {m m' : Memory} {batches : List (List Record)}
    (saved : saveAll m batches = .ok m') :
    m'.rows.map Row.record = m.rows.map Row.record ++ batches.flatten := by
  cases off : m.writesOff with
  | false =>
    obtain ⟨m₁, taken, rows⟩ := saveAll_eq off batches
    cases saved.symm.trans taken
    rw [rows, List.map_append, map_record_numbered]
  | true =>
    cases batches with
    | nil =>
      cases saved
      simp
    | cons records rest =>
      have refused : Repository.save records m = .error .writesOff :=
        (Memory.save_eq records m).trans (if_pos off)
      rw [saveAll, List.foldlM_cons, refused] at saved
      cases saved

end Memory
end ProxyMeter.Store
