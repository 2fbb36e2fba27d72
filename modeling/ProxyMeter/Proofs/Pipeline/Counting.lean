import ProxyMeter.Proofs.Metrics.Counters
import ProxyMeter.Proofs.Pipeline.Ledger

/-!
# What the metrics count

A counter is the sum of what single notices add to it, so that it can be read off the ledger. The
pipeline counts on top of what is there already: nothing else in the metrics is touched.
-/

namespace ProxyMeter.Pipeline

open Calendar Session Traffic
open Metrics (Counter DropStage)

namespace Notice

/-- What a notice adds to a counter. -/
def amount : Counter → Notice → Nat
  | .eventsCollected, .collected _ => 1
  | .eventsProcessed, .normalised _ _ => 1
  | .eventsPublished, .stored records _ => records.length
  | .databaseErrors, .lost _ _ _ => 1
  | _, _ => 0

/-- What a notice adds to the drops of a stage. -/
def drops : DropStage → Notice → Nat
  | .collector, .turnedAway _ _ => 1
  | .normalizer, .dropped _ _ => 1
  | _, _ => 0

private theorem counter_tick (m : Metrics) (c c' : Counter) :
    (m.tick c).counter c' = m.counter c' + .ofNat (if c = c' then 1 else 0) := by
  rw [Metrics.tick, Metrics.add, Metrics.counter_increase]
  split <;> rfl

private theorem counter_observe (m : Metrics) (x : Float) (t : Metrics.Timing) (c : Counter) :
    (m.observe x t).counter c = m.counter c := by
  cases t <;> cases c <;> rfl

private theorem counter_recordDropped (m : Metrics) (stage : DropStage) (c : Counter) :
    (m.recordDropped stage).counter c = m.counter c := by
  cases c <;> rfl

/-- A notice adds its amount to a counter. -/
theorem counter_count (n : Notice) (m : Metrics) (c : Counter) :
    (n.count m).counter c = m.counter c + .ofNat (n.amount c) := by
  have still : m.counter c = m.counter c + .ofNat 0 := (UInt64.add_zero _).symm
  cases n with
  | collected e =>
    rw [count, counter_tick]
    cases c <;> rfl
  | turnedAway why e =>
    rw [count, counter_recordDropped]
    cases c <;> exact still
  | normalised r took =>
    rw [count, counter_observe, counter_tick]
    cases c <;> rfl
  | dropped why r =>
    rw [count, counter_recordDropped]
    cases c <;> exact still
  | stored records took =>
    rw [count, Metrics.add, Metrics.counter_increase, counter_observe]
    cases c <;> rfl
  | lost records fault took =>
    rw [count, counter_tick, counter_observe]
    cases c <;> rfl
  | _ => cases c <;> exact still

/-- A notice adds what it drops to the drops of a stage. -/
theorem dropped_count (n : Notice) (m : Metrics) (stage : DropStage) :
    (n.count m).dropped stage = m.dropped stage + .ofNat (n.drops stage) := by
  have still : m.dropped stage = m.dropped stage + .ofNat 0 := (UInt64.add_zero _).symm
  cases n with
  | turnedAway why e =>
    apply (Metrics.lookup_bump _ _ _ _).trans
    cases stage <;> rfl
  | dropped why r =>
    apply (Metrics.lookup_bump _ _ _ _).trans
    cases stage <;> rfl
  | _ => cases stage <;> exact still

/-- A notice leaves alone what sessions count. -/
theorem count_sessions (n : Notice) (m : Metrics) :
    (n.count m).rejections = m.rejections ∧ (n.count m).activeConnections = m.activeConnections ∧
      (n.count m).connectionLatency = m.connectionLatency := by
  cases n <;> exact ⟨rfl, rfl, rfl⟩

/-- A counter after some notices is what it was and the sum of their amounts. -/
theorem counter_foldr (notices : List Notice) (m : Metrics) (c : Counter) :
    (notices.foldr count m).counter c = m.counter c + .ofNat (notices.map (amount c)).sum := by
  induction notices with
  | nil => exact (UInt64.add_zero _).symm
  | cons n notices ih =>
    rw [List.foldr_cons, counter_count, ih, List.map_cons, List.sum_cons, UInt64.add_assoc,
      ← UInt64.ofNat_add, Nat.add_comm]

/-- The drops of a stage after some notices are what they were and what the notices drop. -/
theorem dropped_foldr (notices : List Notice) (m : Metrics) (stage : DropStage) :
    (notices.foldr count m).dropped stage =
      m.dropped stage + .ofNat (notices.map (drops stage)).sum := by
  induction notices with
  | nil => exact (UInt64.add_zero _).symm
  | cons n notices ih =>
    rw [List.foldr_cons, dropped_count, ih, List.map_cons, List.sum_cons, UInt64.add_assoc,
      ← UInt64.ofNat_add, Nat.add_comm]

/-- Notices leave alone what sessions count. -/
theorem foldr_count_sessions (notices : List Notice) (m : Metrics) :
    (notices.foldr count m).rejections = m.rejections ∧
      (notices.foldr count m).activeConnections = m.activeConnections ∧
      (notices.foldr count m).connectionLatency = m.connectionLatency := by
  induction notices with
  | nil => exact ⟨rfl, rfl, rfl⟩
  | cons n notices ih =>
    obtain ⟨rejections, active, latency⟩ := n.count_sessions (notices.foldr count m)
    exact ⟨rejections.trans ih.1, active.trans ih.2.1, latency.trans ih.2.2⟩

/-- A counter that starts from nothing is the sum of what the notices add. -/
theorem counter_eq_ofNat {notices : List Notice} (c : Counter) {total : Nat}
    (h : (notices.map (amount c)).sum = total) :
    (notices.foldr count {}).counter c = .ofNat total := by
  rw [counter_foldr, h]
  cases c <;> exact UInt64.zero_add _

/-- What notices add, if each adds the size of its entry of one kind, is the size of all entries. -/
theorem sum_entries {α : Type} (kind : Notice → Option α) (size : α → Nat) {weight : Notice → Nat}
    (h : ∀ n, weight n = ((kind n).map size).getD 0) (notices : List Notice) :
    (notices.map weight).sum = ((entries kind notices).map size).sum := by
  rw [entries, List.filterMap_reverse, List.map_reverse, List.sum_reverse]
  induction notices with
  | nil => rfl
  | cons n notices ih =>
    rw [List.map_cons, List.sum_cons, ih, h n, List.filterMap_cons]
    cases kind n with
    | none => exact Nat.zero_add _
    | some a => rfl

/-- What notices add, if each adds one for its entry of one kind, is the number of entries. -/
theorem length_entries {α : Type} (kind : Notice → Option α) {weight : Notice → Nat}
    (h : ∀ n, weight n = ((kind n).map fun _ => 1).getD 0) (notices : List Notice) :
    (notices.map weight).sum = (entries kind notices).length := by
  rw [sum_entries kind _ h, List.map_const', List.sum_replicate_nat, Nat.mul_one]

end Notice

namespace State

variable {σ : Type}

/-- The counters of the pipeline are the lengths of its ledger, in words that wrap. -/
structure Counted (s : State σ) : Prop where
  collected : s.metrics.counter .eventsCollected = .ofNat s.taken.length
  turned : s.metrics.dropped .collector = .ofNat s.turned.length
  processed : s.metrics.counter .eventsProcessed = .ofNat s.normalised.length
  dropped : s.metrics.dropped .normalizer = .ofNat s.dropped.length
  published : s.metrics.counter .eventsPublished = .ofNat s.stored.flatten.length
  failures : s.metrics.counter .databaseErrors = .ofNat s.lost.length

/-- Every state of the pipeline is counted. -/
theorem counted (s : State σ) : s.Counted := by
  have dropped (stage : DropStage) {total : Nat}
      (h : (s.notices.map (Notice.drops stage)).sum = total) :
      s.metrics.dropped stage = .ofNat total := by
    rw [metrics, Notice.dropped_foldr, h]
    exact UInt64.zero_add _
  constructor
  · exact Notice.counter_eq_ofNat _ (Notice.length_entries _ (fun n => by cases n <;> rfl) _)
  · exact dropped _ (Notice.length_entries _ (fun n => by cases n <;> rfl) _)
  · exact Notice.counter_eq_ofNat _ (Notice.length_entries _ (fun n => by cases n <;> rfl) _)
  · exact dropped _ (Notice.length_entries _ (fun n => by cases n <;> rfl) _)
  · apply Notice.counter_eq_ofNat
    rw [stored, List.length_flatten]
    exact Notice.sum_entries _ _ (fun n => by cases n <;> rfl) _
  · exact Notice.counter_eq_ofNat _ (Notice.length_entries _ (fun n => by cases n <;> rfl) _)

end State
end ProxyMeter.Pipeline
