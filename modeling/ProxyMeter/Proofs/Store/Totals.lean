import Mathlib.Data.List.Induction
import Mathlib.Data.List.Nodup
import ProxyMeter.Store.Memory

/-!
# One pass over all rows

Adding rows up under their keys in one pass comes to the same as grouping them by their keys and
adding up each group, also where a total does not fit a signed word.
-/

namespace ProxyMeter.Store

open Traffic

/-- Different keys are left when duplicates are erased. -/
theorem nodup_eraseDups {α : Type} [BEq α] [LawfulBEq α] (xs : List α) : xs.eraseDups.Nodup := by
  induction length : xs.length using Nat.strongRecOn generalizing xs with
  | ind n ih =>
    cases xs with
    | nil => exact List.nodup_nil
    | cons x xs =>
      have fewer := List.length_filter_le (fun y => !y == x) xs
      rw [List.length_cons] at length
      rw [List.eraseDups_cons, List.nodup_cons, List.mem_eraseDups]
      exact ⟨by simp, ih _ (by omega) _ rfl⟩

/-- Another key is left if it was not there before. -/
theorem eraseDups_concat {α : Type} [BEq α] [LawfulBEq α] (xs : List α) (x : α) :
    (xs ++ [x]).eraseDups = if x ∈ xs then xs.eraseDups else xs.eraseDups ++ [x] := by
  rw [List.eraseDups_append, List.removeAll, List.filter_singleton]
  by_cases there : x ∈ xs
  · simp [there]
  · simp [there, List.eraseDups_cons]

namespace Totals

/-- The totals of rows that are added one after the other. -/
def addAll? (t : Totals) (rows : List Row) : Option Totals := rows.foldlM add? t

/-- Three sums at once are three sums one by one. -/
theorem addAll?_eq (t : Totals) (rows : List Row) : t.addAll? rows = do
    let into ← (Store.bytesIn rows).foldlM addWithin? t.bytesIn
    let out ← (Store.bytesOut rows).foldlM addWithin? t.bytesOut
    let latency ← (latencies rows).foldlM addWithin? t.latency
    return ⟨t.count + rows.length, into, out, latency⟩ := by
  induction rows generalizing t with
  | nil => rfl
  | cons r rows ih =>
    rw [addAll?, List.foldlM_cons, add?]
    simp only [Store.bytesIn, Store.bytesOut, latencies, List.map_cons, List.foldlM_cons,
      List.length_cons]
    cases addWithin? t.bytesIn r.record.event.bytesIn with
    | none => rfl
    | some into =>
      cases addWithin? t.bytesOut r.record.event.bytesOut with
      | none => simp
      | some out =>
        cases addWithin? t.latency r.record.event.latencyMs with
        | none => simp
        | some latency =>
          have rest := ih ⟨t.count + 1, into, out, latency⟩
          simpa [addAll?, Store.bytesIn, Store.bytesOut, latencies, Nat.add_assoc,
            Nat.add_comm 1] using rest

/-- Totals are reported as the summary of their rows. -/
theorem summarise_eq (rows : List Row) : Memory.summarise rows =
    match addAll? {} rows with
    | some t => .ok t.summary
    | none => .error .brokenOff := by
  rw [addAll?_eq, Memory.summarise]
  have sum (xs : List Int) : xs.foldlM addWithin? 0 = sumWithin? xs := rfl
  rw [sum, sum, sum]
  cases sumWithin? (Store.bytesIn rows) with
  | none => rfl
  | some into =>
    cases sumWithin? (Store.bytesOut rows) with
    | none => rfl
    | some out =>
      cases sumWithin? (latencies rows) with
      | none => rfl
      | some latency => simp [summary]

section Tables

variable {keys : List String} {key : String}

/-- The entries of some keys. -/
def entries? (keys : List String) (totals : String → Option Totals) :
    Option (List (String × Totals)) :=
  keys.mapM fun k => (totals k).map (k, ·)

theorem entries?_cons (k : String) (keys : List String) (totals : String → Option Totals) :
    entries? (k :: keys) totals =
      (totals k).bind fun t => (entries? keys totals).map ((k, t) :: ·) := by
  rw [entries?, List.mapM_cons]
  cases totals k with
  | none => rfl
  | some t => exact Option.map_eq_bind.symm

theorem entries?_concat (keys : List String) (k : String) (totals : String → Option Totals) :
    entries? (keys ++ [k]) totals =
      (entries? keys totals).bind fun table => (totals k).map fun t => table ++ [(k, t)] := by
  induction keys with
  | nil =>
    rw [List.nil_append, entries?_cons]
    cases totals k <;> rfl
  | cons k' keys ih =>
    rw [List.cons_append, entries?_cons, entries?_cons, ih]
    cases totals k' with
    | none => rfl
    | some t =>
      cases entries? keys totals with
      | none => rfl
      | some table => simp [Function.comp_def]

/-- Entries depend on the totals of their keys only. -/
theorem entries?_congr {totals totals' : String → Option Totals}
    (same : ∀ k ∈ keys, totals k = totals' k) : entries? keys totals = entries? keys totals' := by
  induction keys with
  | nil => rfl
  | cons k keys ih =>
    rw [entries?_cons, entries?_cons, same k (.head _), ih fun k member => same k (.tail _ member)]

/-- A row is entered under a key that has an entry. -/
theorem enter?_of_mem (once : keys.Nodup) (there : key ∈ keys) (totals : String → Option Totals)
    (r : Row) : (entries? keys totals).bind (enter? key r) =
      entries? keys fun k => if k = key then (totals k).bind (·.add? r) else totals k := by
  induction keys with
  | nil => cases there
  | cons k keys ih =>
    rw [List.nodup_cons] at once
    rw [entries?_cons, entries?_cons]
    by_cases same : k = key
    · subst same
      have others : entries? keys (fun k' => if k' = k then (totals k').bind (·.add? r)
          else totals k') = entries? keys totals :=
        entries?_congr fun k' member => if_neg <| by
          rintro rfl
          exact once.1 member
      rw [others, if_pos rfl]
      cases totals k with
      | none => rfl
      | some t =>
        cases entries? keys totals with
        | none => simp
        | some table =>
          simp only [Option.bind_some, Option.map_some, enter?, if_true]
          cases t.add? r <;> rfl
    · have later : key ∈ keys := (List.mem_cons.mp there).resolve_left (Ne.symm same)
      rw [if_neg same, ← ih once.2 later]
      cases totals k with
      | none => rfl
      | some t =>
        cases entries? keys totals with
        | none => rfl
        | some table => simp [enter?, same]

/-- A row is entered under a key that has no entry. -/
theorem enter?_of_not_mem (absent : key ∉ keys) (totals : String → Option Totals) (r : Row) :
    (entries? keys totals).bind (enter? key r) =
      (entries? keys totals).bind fun table => (add? {} r).map fun t => table ++ [(key, t)] := by
  induction keys with
  | nil => rfl
  | cons k keys ih =>
    rw [List.mem_cons, not_or] at absent
    obtain ⟨other, later⟩ := absent
    have rest := ih later
    rw [entries?_cons]
    cases totals k with
    | none => rfl
    | some t =>
      cases more : entries? keys totals with
      | none => rfl
      | some table =>
        rw [more] at rest
        simp only [Option.bind_some, Option.map_some] at rest ⊢
        rw [enter?, if_neg (Ne.symm other), rest, Option.map_map]
        rfl

/-- In one pass every key gets the totals of its rows. -/
theorem table?_eq (key : Row → String) (rows : List Row) : table? key rows =
    entries? (rows.map key).eraseDups fun k => addAll? {} (rows.filter (key · == k)) := by
  induction rows using List.reverseRecOn with
  | nil => rfl
  | append_singleton rows r ih =>
    have pass : table? key (rows ++ [r]) = (table? key rows).bind (enter? (key r) r) := by
      rw [table?, List.foldlM_append]
      cases h : rows.foldlM (fun table r => enter? (key r) r table) [] with
      | none => simp [table?, h]
      | some table => simp [table?, h]
    have own : addAll? {} ((rows ++ [r]).filter (key · == key r)) =
        (addAll? {} (rows.filter (key · == key r))).bind (·.add? r) := by
      simp [addAll?, List.filter_append, List.foldlM_append]
    have others {k : String} (other : k ≠ key r) : (rows ++ [r]).filter (key · == k) =
        rows.filter (key · == k) := by
      simp [List.filter_append, Ne.symm other]
    rw [pass, ih, List.map_append, List.map_singleton, eraseDups_concat]
    split
    · next there =>
      rw [enter?_of_mem (nodup_eraseDups _) (List.mem_eraseDups.mpr there)]
      refine entries?_congr fun k _ => ?_
      split
      · next same => rw [same, own]
      · next other => rw [others other]
    · next absent =>
      have new : rows.filter (key · == key r) = [] := by
        refine List.filter_eq_nil_iff.mpr fun r' member same => absent ?_
        exact List.mem_map.mpr ⟨r', member, eq_of_beq same⟩
      have same : entries? (rows.map key).eraseDups
          (fun k => addAll? {} ((rows ++ [r]).filter (key · == k))) =
            entries? (rows.map key).eraseDups fun k => addAll? {} (rows.filter (key · == k)) := by
        refine entries?_congr fun k member => ?_
        have other : k ≠ key r := by
          rintro rfl
          exact absent (List.mem_eraseDups.mp member)
        rw [others other]
      rw [enter?_of_not_mem (by rwa [List.mem_eraseDups]), entries?_concat, same, own, new]
      rfl

end Tables

/-- A group as it is reported. -/
def ranked (entry : String × Totals) : Ranked := ⟨entry.1, entry.2.summary⟩

/-- Groups that are summarised one by one are the entries of their keys. -/
theorem mapM_summarise (keys : List String) (rowsOf : String → List Row) :
    keys.mapM (fun k => (Memory.summarise (rowsOf k)).map (Ranked.mk k)) =
      match entries? keys fun k => addAll? {} (rowsOf k) with
      | some table => .ok (table.map ranked)
      | none => .error .brokenOff := by
  induction keys with
  | nil => rfl
  | cons k keys ih =>
    rw [List.mapM_cons, entries?_cons, summarise_eq, ih]
    cases addAll? {} (rowsOf k) with
    | none => rfl
    | some t => cases entries? keys fun k => addAll? {} (rowsOf k) <;> rfl

/-- Entries are sorted as the groups that are reported. -/
theorem map_ranked_mergeSort (table : List (String × Totals)) :
    (table.mergeSort atOrBefore).map ranked = Store.ranked (table.map ranked) :=
  List.map_mergeSort fun _ _ _ _ => rfl

end Totals

/-- One pass over all rows finds the groups that are found one by one. -/
theorem Memory.top_eq_grouped (g : Grouping) (limit : Nat) (m : Memory) : top g limit m = do
    let groups ← (grouped g.key (g.members m.rows)).mapM fun group =>
      (summarise group.2).map (Ranked.mk group.1)
    return (ranked groups).take limit := by
  rw [top, topIn, Totals.table?_eq, grouped, List.mapM_map]
  have found := Totals.mapM_summarise ((g.members m.rows).map g.key).eraseDups fun k =>
    (g.members m.rows).filter (g.key · == k)
  simp only [Function.comp_def, found]
  cases Totals.entries? ((g.members m.rows).map g.key).eraseDups fun k =>
      Totals.addAll? {} ((g.members m.rows).filter (g.key · == k)) with
  | none => rfl
  | some table =>
    refine congrArg Except.ok ?_
    rw [← Totals.map_ranked_mergeSort, ← List.map_take]
    rfl

end ProxyMeter.Store
