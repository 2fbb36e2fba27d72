import Mathlib.Algebra.BigOperators.Group.List.Basic
import Mathlib.Algebra.GroupWithZero.Nat
import Mathlib.Algebra.Ring.Int.Defs
import Mathlib.Data.List.Induction
import Mathlib.Data.List.Nodup
import ProxyMeter.Metrics.Exposition
import ProxyMeter.Proofs.Metrics.Counters
import ProxyMeter.Proofs.Metrics.Greatest

/-!
# Metrics after any updates

What each handle holds is found from the updates alone: a counter the sum of its increases, the
gauge the sum of its shifts, a series the number of times its label was counted, and a histogram,
for each bound, the number of observations that this bound or one before it reaches. A series is
there if its label has been counted or read.
-/

namespace ProxyMeter.Metrics

open Session

namespace Update

/-- The amount by which an update increases a counter. -/
def increment (c : Counter) : Update → Nat
  | increase c' amount => if c' = c then amount.toNat else 0
  | _ => 0

/-- The amount by which an update shifts the gauge. -/
def shifted : Update → Int
  | shift amount => amount.toInt
  | _ => 0

/-- The reason that an update is about, and whether it counts it. -/
def reason? : Update → Option (RejectReason × Bool)
  | reject reason => some (reason, true)
  | readRejected reason => some (reason, false)
  | _ => none

/-- The stage that an update is about, and whether it counts it. -/
def stage? : Update → Option (DropStage × Bool)
  | drop stage => some (stage, true)
  | readDropped stage => some (stage, false)
  | _ => none

/-- What an update observes for a histogram. -/
def observation? (t : Timing) : Update → Option Float
  | observe t' x => if t' = t then some x else none
  | _ => none

end Update

theorem afterUpdates_concat (updates : List Update) (u : Update) :
    afterUpdates (updates ++ [u]) = (afterUpdates updates).updated u := by
  rw [afterUpdates, List.foldl_append]
  rfl

/-! ### Counters and the gauge -/

/-- The sum of the increases of a counter. -/
def increments (c : Counter) (updates : List Update) : Nat := (updates.map (·.increment c)).sum

/-- The sum of the shifts of the gauge. -/
def netShift (updates : List Update) : Int := (updates.map Update.shifted).sum

theorem counter_updated (m : Metrics) (u : Update) (c : Counter) :
    (m.updated u).counter c = m.counter c + .ofNat (u.increment c) := by
  cases u with
  | increase c' amount =>
    rw [updated, counter_increase, Update.increment]
    split
    · rw [UInt64.ofNat_toNat]
    · rfl
  | observe t x =>
    have same : (m.updated (.observe t x)).counter c = m.counter c := by cases t <;> cases c <;> rfl
    rw [same]
    exact (UInt64.add_zero _).symm
  | _ =>
    refine Eq.trans (b := m.counter c) ?_ (UInt64.add_zero _).symm
    cases c <;> rfl

/-- A counter holds the sum of its increases. -/
theorem counter_afterUpdates (c : Counter) (updates : List Update) :
    (afterUpdates updates).counter c = .ofNat (increments c updates) := by
  induction updates using List.reverseRecOn with
  | nil => cases c <;> rfl
  | append_singleton updates u ih =>
    rw [afterUpdates_concat, counter_updated, ih, ← UInt64.ofNat_add, increments, increments,
      List.map_append, List.sum_append, List.map_singleton, List.sum_singleton]

theorem activeConnections_updated (m : Metrics) (u : Update) :
    (m.updated u).activeConnections = m.activeConnections + .ofInt u.shifted := by
  cases u with
  | shift amount => rw [Update.shifted, Int64.ofInt_toInt]; rfl
  | increase c amount =>
    refine Eq.trans (b := m.activeConnections) ?_ (Int64.add_zero _).symm
    cases c <;> rfl
  | observe t x =>
    refine Eq.trans (b := m.activeConnections) ?_ (Int64.add_zero _).symm
    cases t <;> rfl
  | _ => exact (Int64.add_zero _).symm

/-- The gauge holds the sum of its shifts. -/
theorem activeConnections_afterUpdates (updates : List Update) :
    (afterUpdates updates).activeConnections = .ofInt (netShift updates) := by
  induction updates using List.reverseRecOn with
  | nil => rfl
  | append_singleton updates u ih =>
    rw [afterUpdates_concat, activeConnections_updated, ih, ← Int64.ofInt_add, netShift, netShift,
      List.map_append, List.sum_append, List.map_singleton, List.sum_singleton]

/-! ### Series -/

section Series

variable {κ : Type} [DecidableEq κ] {key k : κ} {amount n : UInt64} {series : List (κ × UInt64)}
  {uses : List (κ × Bool)}

/-- A series that is bumped is there, and all that were there stay in their places. -/
theorem map_fst_bump (key : κ) (amount : UInt64) (series : List (κ × UInt64)) :
    (bump key amount series).map Prod.fst =
      if key ∈ series.map Prod.fst then series.map Prod.fst
      else series.map Prod.fst ++ [key] := by
  induction series with
  | nil => rfl
  | cons entry rest ih =>
    obtain ⟨name, n⟩ := entry
    by_cases here : name = key
    · simp [bump, here]
    · rw [bump, if_neg here, List.map_cons, ih]
      by_cases later : key ∈ rest.map Prod.fst
      · rw [if_pos later, if_pos (.tail _ later), List.map_cons]
      · rw [if_neg later, if_neg]
        · rfl
        · exact fun h => (List.mem_cons.mp h).elim (fun same => here same.symm) later

/-- Bumping a series leaves the others alone. -/
theorem mem_bump_of_ne (other : k ≠ key) : (k, n) ∈ bump key amount series ↔ (k, n) ∈ series := by
  induction series with
  | nil => simp [bump, other]
  | cons entry rest ih =>
    obtain ⟨name, m⟩ := entry
    by_cases here : name = key
    · subst here
      simp [bump, other]
    · rw [bump, if_neg here, List.mem_cons, List.mem_cons, ih]

/-- Where no key comes twice, what is made of the entries is made of the keys and their values. -/
theorem map_eq_map_fst {β : Type} (f : κ × UInt64 → β) (distinct : (series.map Prod.fst).Nodup) :
    series.map f =
      (series.map Prod.fst).map fun k => f (k, (series.lookup k).getD 0) := by
  rw [List.map_map]
  refine List.map_congr_left fun entry member => ?_
  obtain ⟨k, n⟩ := entry
  obtain ⟨before, after, rfl⟩ := List.append_of_mem member
  have first : ∀ p ∈ before, (k != p.1) = true := by
    intro p hp
    rw [List.map_append, List.nodup_append] at distinct
    have apart := distinct.2.2 p.1 (List.mem_map_of_mem hp) k (by simp)
    simpa using fun same : k = p.1 => apart same.symm
  rw [Function.comp_apply, List.lookup_eq_some_iff.mpr ⟨before, after, rfl, first⟩]
  rfl

/-- Series after one more use of a key, which counts it or only reads it. -/
def used (series : List (κ × UInt64)) (use : κ × Bool) : List (κ × UInt64) :=
  bump use.1 (if use.2 then 1 else 0) series

/-- The series after some uses of their keys. -/
def seriesOf (uses : List (κ × Bool)) : List (κ × UInt64) := uses.foldl used []

theorem seriesOf_append (uses more : List (κ × Bool)) :
    seriesOf (uses ++ more) = more.foldl used (seriesOf uses) :=
  List.foldl_append

theorem nodup_keys_seriesOf (uses : List (κ × Bool)) : ((seriesOf uses).map Prod.fst).Nodup := by
  induction uses using List.reverseRecOn with
  | nil => exact List.nodup_nil
  | append_singleton uses use ih =>
    rw [seriesOf_append]
    show (bump use.1 _ (seriesOf uses)).map Prod.fst |>.Nodup
    rw [map_fst_bump]
    split
    · exact ih
    · next new =>
      refine List.nodup_append.mpr ⟨ih, List.nodup_singleton _, fun k known k' only => ?_⟩
      cases List.mem_singleton.mp only
      exact fun same => new (same ▸ known)

/-- The keys are those that have been used. -/
theorem mem_keys_seriesOf : k ∈ (seriesOf uses).map Prod.fst ↔ k ∈ uses.map Prod.fst := by
  induction uses using List.reverseRecOn with
  | nil => rfl
  | append_singleton uses use ih =>
    rw [seriesOf_append, List.map_append, List.mem_append, ← ih]
    show k ∈ (bump use.1 _ (seriesOf uses)).map Prod.fst ↔ _
    rw [map_fst_bump]
    split
    · next known =>
      refine ⟨.inl, fun h => h.elim id fun last => ?_⟩
      rw [List.map_singleton, List.mem_singleton] at last
      exact last ▸ known
    · simp

/-- A series holds the number of times its key has been counted. -/
theorem lookup_seriesOf (uses : List (κ × Bool)) (k : κ) :
    ((seriesOf uses).lookup k).getD 0 = .ofNat (uses.count (k, true)) := by
  induction uses using List.reverseRecOn with
  | nil => rfl
  | append_singleton uses use ih =>
    obtain ⟨key, counted⟩ := use
    rw [seriesOf_append, List.count_append, UInt64.ofNat_add, ← ih, List.count_singleton]
    refine (lookup_bump key k _ (seriesOf uses)).trans (congrArg _ ?_)
    by_cases same : key = k <;> cases counted <;> simp [same]

end Series

/-- The reasons that updates are about, each with whether it is counted. -/
def reasonsIn (updates : List Update) : List (RejectReason × Bool) :=
  updates.filterMap Update.reason?

/-- The stages that updates are about, each with whether it is counted. -/
def stagesIn (updates : List Update) : List (DropStage × Bool) := updates.filterMap Update.stage?

theorem rejections_updated (m : Metrics) (u : Update) :
    (m.updated u).rejections = u.reason?.toList.foldl used m.rejections := by
  cases u with
  | increase c amount => cases c <;> rfl
  | observe t x => cases t <;> rfl
  | _ => rfl

theorem drops_updated (m : Metrics) (u : Update) :
    (m.updated u).drops = u.stage?.toList.foldl used m.drops := by
  cases u with
  | increase c amount => cases c <;> rfl
  | observe t x => cases t <;> rfl
  | _ => rfl

theorem filterMap_singleton {α β : Type} (f : α → Option β) (a : α) :
    [a].filterMap f = (f a).toList := by
  cases h : f a <;> simp [h]

theorem rejections_afterUpdates (updates : List Update) :
    (afterUpdates updates).rejections = seriesOf (reasonsIn updates) := by
  induction updates using List.reverseRecOn with
  | nil => rfl
  | append_singleton updates u ih =>
    rw [afterUpdates_concat, rejections_updated, ih, reasonsIn, reasonsIn, List.filterMap_append,
      filterMap_singleton, seriesOf_append]

theorem drops_afterUpdates (updates : List Update) :
    (afterUpdates updates).drops = seriesOf (stagesIn updates) := by
  induction updates using List.reverseRecOn with
  | nil => rfl
  | append_singleton updates u ih =>
    rw [afterUpdates_concat, drops_updated, ih, stagesIn, stagesIn, List.filterMap_append,
      filterMap_singleton, seriesOf_append]

/-! ### Histograms -/

/-- How many observations one of the first bounds reaches. -/
def reached (bounds observations : List Float) (first : Nat) : Nat :=
  observations.countP fun x => (bounds.take first).any fun bound => decide (x ≤ bound)

/-- What a histogram holds of some observations. -/
structure Histogram.Holds (h : Histogram) (bounds observations : List Float) : Prop where
  bounds_eq : h.buckets.map Prod.fst = bounds ++ [greatest]
  upTo : ∀ first, ((h.buckets.take first).map Prod.snd).sum =
    reached (bounds ++ [greatest]) observations first
  count : h.count = observations.length
  sum : h.sum = observations.foldl (· + ·) 0

namespace Histogram

variable {h : Histogram} {bounds observations : List Float} {x : Float}

/-- An observation counts once, at the first bound that reaches it. -/
theorem sum_take_place (x : Float) (buckets : List (Float × Nat)) (first : Nat) :
    (((place x buckets).take first).map Prod.snd).sum = ((buckets.take first).map Prod.snd).sum +
      if ((buckets.map Prod.fst).take first).any fun bound => decide (x ≤ bound) then 1 else 0 := by
  induction buckets generalizing first with
  | nil => simp [place]
  | cons bucket rest ih =>
    obtain ⟨bound, n⟩ := bucket
    cases first with
    | zero => rfl
    | succ first =>
      rw [place]
      by_cases here : x ≤ bound
      · rw [if_pos here]
        simp [here, Nat.add_right_comm]
      · rw [if_neg here]
        simp only [List.take_succ_cons, List.map_cons, List.sum_cons, List.any_cons, here,
          decide_false, Bool.false_or, ih first, Nat.add_assoc]

theorem map_fst_place (x : Float) (buckets : List (Float × Nat)) :
    (place x buckets).map Prod.fst = buckets.map Prod.fst := by
  induction buckets with
  | nil => rfl
  | cons bucket rest ih =>
    rw [place]
    split
    · rfl
    · rw [List.map_cons, List.map_cons, ih]

theorem reached_concat (bounds observations : List Float) (x : Float) (first : Nat) :
    reached bounds (observations ++ [x]) first = reached bounds observations first +
      if (bounds.take first).any fun bound => decide (x ≤ bound) then 1 else 0 := by
  rw [reached, List.countP_append, List.countP_singleton]
  rfl

theorem holds_ofBounds (bounds : List Float) : (ofBounds bounds).Holds bounds [] where
  bounds_eq := by simp [ofBounds, Function.comp_def]
  upTo first := by
    rw [ofBounds, ← List.map_take, List.map_map, reached, List.countP_nil]
    refine List.sum_eq_zero fun n member => ?_
    obtain ⟨_, _, rfl⟩ := List.mem_map.mp member
    rfl
  count := rfl
  sum := rfl

/-- One more observation is held beside the others. -/
theorem Holds.observe (holds : h.Holds bounds observations) (x : Float) :
    (h.observe x).Holds bounds (observations ++ [x]) where
  bounds_eq := (map_fst_place x h.buckets).trans holds.bounds_eq
  upTo first := by
    rw [reached_concat, ← holds.upTo, ← holds.bounds_eq]
    exact sum_take_place x h.buckets first
  count := by simp [Histogram.observe, holds.count]
  sum := by simp [Histogram.observe, holds.sum]

end Histogram

/-- The bounds of a histogram. -/
def Timing.bounds : Timing → List Float
  | .connectionLatency | .databaseQuery => latencyBounds
  | .processingLatency => processingBounds

/-- What updates observe for a histogram. -/
def observationsIn (t : Timing) (updates : List Update) : List Float :=
  updates.filterMap (·.observation? t)

theorem timing_updated (m : Metrics) (u : Update) (t : Timing) :
    (m.updated u).timing t = (u.observation? t).toList.foldl Histogram.observe (m.timing t) := by
  cases u with
  | increase c amount => cases c <;> cases t <;> rfl
  | observe t' x => cases t' <;> cases t <;> rfl
  | _ => cases t <;> rfl

/-- A histogram holds what has been observed for it. -/
theorem timing_afterUpdates (t : Timing) (updates : List Update) :
    ((afterUpdates updates).timing t).Holds t.bounds (observationsIn t updates) := by
  induction updates using List.reverseRecOn with
  | nil => cases t <;> exact Histogram.holds_ofBounds _
  | append_singleton updates u ih =>
    rw [afterUpdates_concat, timing_updated, observationsIn, List.filterMap_append,
      filterMap_singleton]
    cases u.observation? t with
    | none =>
      rw [Option.toList_none, List.append_nil]
      exact ih
    | some x => exact ih.observe x

end ProxyMeter.Metrics
