import ProxyMeter.Pipeline.Collector
import ProxyMeter.Pipeline.Publisher
import ProxyMeter.Settings.Basic

/-!
# The pipeline

Events go from the collector through workers to the publisher. The workers share the input, the
queue that the collector sends into: one of them at a time listens at it, and takes the next event
as soon as there is one. It then makes a record of the event, and hands it to the publisher or drops
it if the publisher has no room. When the input is closed and empty the workers go, and with the
last of them the source of the publisher's queue.

`State.step` is what may happen next, in any order: nothing here says who is faster.
-/

namespace ProxyMeter.Pipeline

open Calendar Store Traffic

/-- What a worker is doing in the loop of `run_worker`. -/
inductive Worker.Phase where
  /-- Waiting for its turn at the input. -/
  | waiting
  /-- Alone at the input, until there is an event. -/
  | listening
  | holding (e : Event)
  | handing (r : Record)
  | gone

/-- A worker of the `NormalizerPool`, and whether it has seen the signal to stop. -/
structure Worker where
  phase : Worker.Phase := .waiting
  draining : Bool := false

namespace Worker

/-- Whether the worker is at the input. -/
def isListening (w : Worker) : Bool :=
  match w.phase with
  | .listening => true
  | _ => false

/-- Whether the worker has gone. -/
def isGone (w : Worker) : Bool :=
  match w.phase with
  | .gone => true
  | _ => false

/-- The most workers that there can be room for. -/
def mostWorkers : Nat := (Nat.pow 2 63 - 1) / 8

/-- Workers before their first step (`NormalizerPool.start`); there are none if there is no room for
so many. -/
def pool? (count : Nat) : Option (List Worker) :=
  if count ≤ mostWorkers then some (List.replicate count {}) else none

end Worker

/-- The whole pipeline: `Pipeline` with its two queues and its three kinds of tasks. The latest
notice is the first. -/
structure State (σ : Type) where
  /-- What the collector sends into. -/
  input : Queue Event
  workers : List Worker
  publisher : Publisher σ
  /-- The signal to stop has been given. -/
  stop : Bool := false
  /-- Milliseconds since the start. -/
  now : Nat := 0
  notices : List Notice := []

/-- What can happen in the pipeline. Workers are named by their places. -/
inductive Action where
  | collect (e : Event)
  /-- The collector is closed (`Collector.close`). -/
  | close
  /-- The signal to stop is given. -/
  | cancel
  /-- Time passes. -/
  | pass (millis : Nat)
  /-- A worker gets its turn at the input. -/
  | listen (worker : Nat)
  | receive (worker : Nat)
  /-- A worker sees the signal to stop. -/
  | heed (worker : Nat)
  /-- A worker sees that no event can come any more. -/
  | leave (worker : Nat)
  | normalise (worker : Nat) (createdAt : Instant) (tookMillis : Float)
  | hand (worker : Nat)
  | publisher (move : Publisher.Move)

namespace State

variable {σ : Type}

/-- A pipeline before its first step (`Pipeline.start`). It has at least one worker, and queues for
at least one item; there is none if there is no room for a queue or for the workers. -/
def start? (settings : PipelineSettings) (store : σ) : Option (State σ) := do
  let input ← Queue.ofCapacity? (max 1 settings.inputCapacity.toNat)
  let queue ← Queue.ofCapacity? (max 1 settings.outputCapacity.toNat)
  let count := max 1 settings.workers.toNat
  let workers ← Worker.pool? count
  return {
    input
    workers
    publisher := .start queue settings.batchSize.toNat settings.flushMillis.toNat store
    notices := ((List.range count).map .workerStarted).reverse ++
      [.started count settings.batchSize.toNat settings.flushMillis.toNat] }

/-- Adds notices, in the order in which they were given. -/
def noting (notices : List Notice) (s : State σ) : State σ :=
  { s with notices := notices.reverse ++ s.notices }

/-- Replaces a worker. -/
def setWorker (n : Nat) (w : Worker) (s : State σ) : State σ :=
  { s with workers := s.workers.set n w }

/-- No worker is at the input. -/
def inputFree (s : State σ) : Bool := !s.workers.any Worker.isListening

/-- All workers and the publisher have gone. -/
def finished (s : State σ) : Bool :=
  s.workers.all Worker.isGone && match s.publisher.phase with
    | .gone => true
    | _ => false

/-- Takes an event or turns it away (`Collector.collect`). -/
def collect (e : Event) (s : State σ) : State σ :=
  let (notice, input) := Collector.collect e s.input
  { s with input }.noting [notice]

/-- A worker goes. With the last one the input has no sink and the publisher's queue no source. -/
def leave (n : Nat) (w : Worker) (s : State σ) : State σ :=
  let s := (s.setWorker n { w with phase := .gone }).noting [.workerGone n]
  if s.workers.all Worker.isGone then
    { s with
      input := s.input.abandon
      publisher := { s.publisher with queue := s.publisher.queue.close } }
  else s

/-- A worker hands its record to the publisher, or drops it: `try_send` in `run_worker`. -/
def hand (n : Nat) (w : Worker) (r : Record) (s : State σ) : State σ :=
  let s := s.setWorker n { w with phase := .waiting }
  match s.publisher.queue.offer r with
  | .ok queue => { s with publisher := { s.publisher with queue } }
  | .error why => s.noting [.dropped why r]

/-- One step, if it is possible. -/
def step [Repository σ] (s : State σ) : Action → Option (State σ)
  | .collect e => some (s.collect e)
  | .close => some { s with input := s.input.close }
  | .cancel => some { s with stop := true }
  | .pass millis => some { s with now := s.now + millis }
  | .listen n =>
    match s.workers[n]? with
    | some ⟨.waiting, draining⟩ =>
      if s.inputFree then some (s.setWorker n ⟨.listening, draining⟩) else none
    | _ => none
  | .receive n =>
    match s.workers[n]?, s.input.take? with
    | some ⟨.listening, draining⟩, some (e, input) =>
      some ({ s with input }.setWorker n ⟨.holding e, draining⟩)
    | _, _ => none
  | .heed n =>
    match s.workers[n]? with
    | some ⟨.listening, false⟩ =>
      if s.stop then some ((s.setWorker n ⟨.waiting, true⟩).noting [.workerDraining n]) else none
    | _ => none
  | .leave n =>
    match s.workers[n]? with
    | some ⟨.listening, draining⟩ =>
      if s.input.ended then some (s.leave n ⟨.listening, draining⟩) else none
    | _ => none
  | .normalise n createdAt took =>
    match s.workers[n]? with
    | some ⟨.holding e, draining⟩ =>
      let r : Record := ⟨e, createdAt⟩
      some ((s.setWorker n ⟨.handing r, draining⟩).noting [.normalised r took])
    | _ => none
  | .hand n =>
    match s.workers[n]? with
    | some ⟨.handing r, draining⟩ => some (s.hand n ⟨.handing r, draining⟩ r)
    | _ => none
  | .publisher move =>
    (s.publisher.step s.now s.stop move).map fun (notices, publisher) =>
      { s with publisher }.noting notices

/-- Some steps one after the other, if each is possible in its turn. -/
def run [Repository σ] (s : State σ) (actions : List Action) : Option (State σ) :=
  actions.foldlM step s

/-- The metrics of the pipeline. -/
def metrics (s : State σ) : Metrics := s.notices.foldr Notice.count {}

/-- The log of the pipeline, the earliest line first. -/
def lines (s : State σ) : List Log.Line := s.notices.reverse.filterMap Notice.line

/-- An upper bound for the number of steps, time and ticks apart, before the pipeline rests if
nobody collects. -/
def weight (s : State σ) : Nat :=
  let worker (w : Worker) : Nat :=
    (if w.draining then 0 else 2) + match w.phase with
      | .waiting => 2
      | .listening => 1
      | .holding _ => 10
      | .handing _ => 9
      | .gone => 0
  let publisher : Nat :=
    (if s.publisher.draining then 0 else 1) + match s.publisher.phase with
      | .gathering => 2
      | .writing _ _ last => if last then 1 else 6
      | .gone => 0
  10 * s.input.items.length + s.workers.foldr (fun w n => worker w + n) 0 +
    6 * s.publisher.queue.items.length + 5 * s.publisher.batch.length + publisher

end State

end ProxyMeter.Pipeline
