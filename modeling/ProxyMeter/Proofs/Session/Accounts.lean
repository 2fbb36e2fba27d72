import Mathlib.Data.UInt
import ProxyMeter.Proofs.Metrics.Counters
import ProxyMeter.Proofs.Session.Steps

/-!
# What sessions add to the metrics

The metrics that sessions touch are read as accounts. What a session has added to an account depends
on its stage and, once it is ruled on, on the verdict.
-/

namespace ProxyMeter

open Session Traffic

/-- What sessions add to. -/
inductive Account where
  /-- The gauge of active connections. -/
  | active
  | total
  /-- Connections that were closed or refused for want of a place. -/
  | ended
  | rejected (reason : RejectReason)
  /-- Calls of the collector. The pipeline counts them, the sessions do not. -/
  | called
  | bytesIn
  | bytesOut

/-- The counter behind an account. -/
def Account.counter? : Account → Option Metrics.Counter
  | .total => some .totalConnections
  | .ended => some .closedConnections
  | .called => some .eventsCollected
  | .bytesIn => some .bytesIn
  | .bytesOut => some .bytesOut
  | .active | .rejected _ => none

/-- What a rejection adds to the accounts. -/
def Account.rejection (reason : RejectReason) : Account → Nat
  | .ended => if reason = .admission then 1 else 0
  | .rejected r => if reason = r then 1 else 0
  | _ => 0

namespace Metrics

/-- The balance of an account. -/
def balance (m : Metrics) : Account → UInt64
  | .active => m.activeConnections.toUInt64
  | .total => m.counter .totalConnections
  | .ended => m.counter .closedConnections + m.rejected .admission
  | .rejected reason => m.rejected reason
  | .called => m.counter .eventsCollected + m.dropped .collector
  | .bytesIn => m.counter .bytesIn
  | .bytesOut => m.counter .bytesOut

/-- The accounts grow by some amounts. -/
def Gains (m m' : Metrics) (gain : Account → Nat) : Prop :=
  ∀ a, m'.balance a = m.balance a + .ofNat (gain a)

/-- Where nothing changes nothing is gained. -/
theorem Gains.refl (m : Metrics) : m.Gains m fun _ => 0 := fun _ => (UInt64.add_zero _).symm

private theorem rejected_increase (m : Metrics) (c : Counter) (amount : UInt64)
    (reason : RejectReason) : (m.increase c amount).2.rejected reason = m.rejected reason := by
  cases c <;> rfl

private theorem dropped_increase (m : Metrics) (c : Counter) (amount : UInt64)
    (stage : DropStage) : (m.increase c amount).2.dropped stage = m.dropped stage := by
  cases c <;> rfl

private theorem activeConnections_increase (m : Metrics) (c : Counter) (amount : UInt64) :
    (m.increase c amount).2.activeConnections = m.activeConnections := by
  cases c <;> rfl

/-- A counter that is increased adds to the account that it is behind. -/
theorem gains_increase (m : Metrics) (c : Counter) (amount : UInt64) :
    m.Gains (m.increase c amount).2 fun a => if a.counter? = some c then amount.toNat else 0 := by
  have counts (c' : Counter) : (m.increase c amount).2.counter c' =
      m.counter c' + .ofNat (if some c' = some c then amount.toNat else 0) := by
    rw [counter_increase]
    by_cases same : c = c'
    · rw [if_pos same, if_pos (congrArg some same.symm), UInt64.ofNat_toNat]
    · rw [if_neg same, if_neg fun h => same (Option.some.inj h).symm]
      rfl
  intro a
  cases a with
  | active =>
    exact (congrArg Int64.toUInt64 (activeConnections_increase m c amount)).trans (add_zero _).symm
  | rejected reason => exact (rejected_increase m c amount reason).trans (add_zero _).symm
  | total => exact counts .totalConnections
  | ended =>
    simp only [balance, counts, rejected_increase, Account.counter?]
    exact add_right_comm _ _ _
  | called =>
    simp only [balance, counts, dropped_increase, Account.counter?]
    exact add_right_comm _ _ _
  | bytesIn => exact counts .bytesIn
  | bytesOut => exact counts .bytesOut

/-- A counter that ticks adds one to the account that it is behind. -/
theorem gains_tick (m : Metrics) (c : Counter) :
    m.Gains (m.tick c) fun a => if a.counter? = some c then 1 else 0 :=
  m.gains_increase c 1

/-- A shift changes the gauge and no other account. -/
theorem balance_shiftActive (m : Metrics) (amount : Int64) (a : Account) :
    (m.shiftActive amount).2.balance a =
      m.balance a + match a with | .active => amount.toUInt64 | _ => 0 := by
  cases a with
  | active => exact Int64.toUInt64_add _ _
  | _ => exact (add_zero _).symm

/-- The gauge goes up by one. -/
theorem gains_shiftActive (m : Metrics) :
    m.Gains (m.shiftActive 1).2 fun a => match a with | .active => 1 | _ => 0 := by
  intro a
  rw [balance_shiftActive]
  cases a <;> rfl

/-- The gauge goes down by one. -/
theorem shiftActive_gains (m : Metrics) :
    (m.shiftActive (-1)).2.Gains m fun a => match a with | .active => 1 | _ => 0 := by
  intro a
  rw [balance_shiftActive]
  cases a with
  | active => exact (neg_add_cancel_right (m.balance .active) 1).symm
  | _ => exact ((add_zero _).trans (add_zero _)).symm

/-- A rejection adds to the account of its reason, and for want of a place to those that are
over. -/
theorem gains_recordRejected (m : Metrics) (reason : RejectReason) :
    m.Gains (m.recordRejected reason) (Account.rejection reason) := by
  have counts (r : RejectReason) : (m.recordRejected reason).rejected r =
      m.rejected r + .ofNat (if reason = r then 1 else 0) := by
    apply (lookup_bump reason r 1 m.rejections).trans
    split <;> rfl
  intro a
  cases a with
  | ended =>
    show m.counter .closedConnections + (m.recordRejected reason).rejected .admission = _
    rw [counts]
    exact (add_assoc _ _ _).symm
  | rejected r => exact counts r
  | _ => exact (add_zero _).symm

/-- An observed latency adds to no account. -/
theorem gains_observe (m : Metrics) (x : Float) :
    m.Gains (m.observe x .connectionLatency) fun _ => 0 := by
  intro a
  cases a with
  | _ => exact (add_zero _).symm

/-- An observation is counted. -/
theorem Histogram.count_observe (h : Histogram) (x : Float) :
    (h.observe x).count = h.count + 1 :=
  rfl

end Metrics

/-- The bytes that came in according to an event. -/
def Traffic.Event.inflow (e : Event) : UInt64 := .ofInt e.bytesIn

/-- The bytes that went out according to an event. -/
def Traffic.Event.outflow (e : Event) : UInt64 := .ofInt e.bytesOut

/-- A count that was wrapped into a signed word can be read off it. -/
theorem ofInt_toInt_toInt64 (n : UInt64) : UInt64.ofInt n.toInt64.toInt = n := by
  have value : n.toInt64.toInt = (n.toNat : Int).bmod (2 ^ 64) :=
    BitVec.toInt_eq_toNat_bmod n.toBitVec
  have wrapped : n.toInt64.toInt % (2 ^ 64 : Nat) = n.toNat := by
    rw [value, Int.bmod_emod, Int.emod_eq_of_lt (Int.natCast_nonneg _)]
    exact_mod_cast n.toNat_lt
  exact (congrArg (fun z : Int => UInt64.ofNat z.toNat) wrapped).trans UInt64.ofNat_toNat

namespace Session

/-- What a session has added to an account, apart from what its verdict has added. -/
def Stage.share : Stage → Account → Nat
  | .arrived, _ => 0
  | _, .total => 1
  | .closed, .ended | .gone, .ended => 1
  | .counted, .active | .turnedAway, .active | .admitted, .active => 0
  | .inactive, .active | .closed, .active | .gone, .active => 0
  | _, .active => 1
  | .countedIn e _, .bytesIn | .measured e, .bytesIn => e.inflow.toNat
  | .measured e, .bytesOut => e.outflow.toNat
  | _, _ => 0

/-- The places in the pool that a session has. -/
def Stage.places : Stage → Nat
  | .arrived | .counted | .turnedAway | .gone => 0
  | _ => 1

/-- The latencies that a session has observed, if it is not ruled on yet. -/
def Stage.latencies : Stage → Nat
  | .relaying _ _ _ | .relayed _ _ _ | .countedIn _ _ | .measured _ => 1
  | _ => 0

/-- Whether a session has been ruled on. -/
def Stage.isRuled : Stage → Bool
  | .settled | .inactive | .closed | .gone => true
  | _ => false

/-- What a verdict on a session adds to an account. -/
def Verdict.share : Verdict → Account → Nat
  | .delivered e, .bytesIn => e.inflow.toNat
  | .delivered e, .bytesOut => e.outflow.toNat
  | .rejected reason, .rejected r => if reason = r then 1 else 0
  | _, _ => 0

/-- A session that is counted as active has a place in the pool. -/
theorem Stage.active_le_places (stage : Stage) : stage.share .active ≤ stage.places := by
  cases stage <;> simp [share, places]

/-- A session that has a place in the pool is not over. -/
theorem Connection.places_le (v : Connection) : v.stage.places ≤ if v.isPresent then 1 else 0 := by
  obtain ⟨peer, stage⟩ := v
  cases stage <;> simp [Stage.places, isPresent]

end Session
end ProxyMeter
