import ProxyMeter.Pipeline.State

/-!
# The workers on their own

The workers between whoever calls the collector and whoever takes records from their queue, with
what has gone through them. They are the workers of the pipeline, whose publisher lends its queue
and does nothing else.

`NormalizerPool.step` is what may happen next, in any order.
-/

namespace ProxyMeter.Pipeline

open Store Traffic

/-- Whether an action is not a move of the publisher. -/
def Action.isUpstream : Action → Bool
  | .publisher _ => false
  | _ => true

variable {σ : Type}

/-- The record that a step has made, with the worker that has made it, seen from the pipeline after
the step. -/
def State.madeBy (s : State σ) : Action → List (Nat × Record)
  | .normalise n _ _ =>
    match s.workers[n]? with
    | some ⟨.handing r, _⟩ => [(n, r)]
    | _ => []
  | _ => []

/-- The workers on their own. Anybody may take records from their queue; no
publisher does. -/
structure NormalizerPool (σ : Type) where
  state : State σ
  /-- The records that were put into the queue, the earliest first. -/
  put : List Record := []
  /-- The records that were taken from it, the earliest first. -/
  received : List Record := []
  /-- The records that were made, each with the worker that has made it. -/
  made : List (Nat × Record) := []

namespace NormalizerPool

/-- The queue into which the workers put their records. -/
def output (p : NormalizerPool σ) : Queue Record := p.state.publisher.queue

/-- The workers with another queue. -/
def withOutput (p : NormalizerPool σ) (queue : Queue Record) : State σ :=
  { p.state with publisher := { p.state.publisher with queue } }

/-- All workers have gone. -/
def allGone (p : NormalizerPool σ) : Bool := p.state.workers.all Worker.isGone

/-- What can happen to workers on their own. -/
inductive Action where
  /-- A worker does something, or somebody else does who has no part in their queue. -/
  | within (a : Pipeline.Action)
  /-- A record is taken from the queue. -/
  | receive
  /-- Nobody takes records any more. -/
  | abandon

/-- Workers before their first step (`NormalizerPool.start`). The publisher lends its queue and does
nothing else. -/
def start (count input output : Nat) (store : σ) : NormalizerPool σ where
  state :=
    { input := { capacity := input }
      workers := List.replicate count {}
      publisher := .start { capacity := output } 1 1 store }

/-- What has gone through the workers after one of their steps. -/
def moved (a : Pipeline.Action) (state : State σ) (p : NormalizerPool σ) : NormalizerPool σ :=
  { p with
    state
    put := p.put ++ state.publisher.queue.items.drop p.output.items.length
    made := p.made ++ state.madeBy a }

/-- One step, if it is possible. -/
def step [Repository σ] (p : NormalizerPool σ) : Action → Option (NormalizerPool σ)
  | .within a => if a.isUpstream then (p.state.step a).map (p.moved a) else none
  | .receive =>
    p.output.take?.map fun (r, queue) =>
      { p with state := p.withOutput queue, received := p.received ++ [r] }
  | .abandon => some { p with state := p.withOutput p.output.abandon }

/-- Some steps one after the other, if each is possible in its turn. -/
def run [Repository σ] (p : NormalizerPool σ) (actions : List Action) : Option (NormalizerPool σ) :=
  actions.foldlM step p

end NormalizerPool
end ProxyMeter.Pipeline
