import ProxyMeter.Pipeline.Collector

/-!
# The collector as clones share it

Calls of clones that overlap. The sender is behind a lock. A call holds the lock for reading from
its first step to its last: it looks whether the sender is there, sends, and counts the answer. To
close means to take the sender away, for which the lock is held for writing: nobody is inside then.
The sender is also gone when no clone is left.

`SharedCollector.step` is what may happen next, in any order: the steps of one call can have any
steps of other calls and of the receiver between them.
-/

namespace ProxyMeter.Pipeline

open Traffic

/-- How far a call of `Collector.collect` has come. -/
inductive Call.Stage where
  /-- Before the lock. -/
  | waiting
  | inside
  /-- The sender has been seen. -/
  | sending
  | answered (answer : Notice)
  | counted (answer : Notice)
  /-- The lock has been given back. -/
  | finished (answer : Notice)

/-- A call of a clone, which is named by its place. -/
structure Call where
  clone : Nat
  event : Event
  stage : Call.Stage := .waiting

namespace Call

/-- Whether the call holds the lock. -/
def isInside (c : Call) : Bool :=
  match c.stage with
  | .waiting | .finished _ => false
  | _ => true

/-- Whether the call has come to its end. -/
def isOver (c : Call) : Bool :=
  match c.stage with
  | .finished _ => true
  | _ => false

end Call

/-- A collector that clones share (`Collector`), with everybody who uses it. -/
structure SharedCollector where
  queue : Queue Event
  /-- Whether each clone is still held. -/
  clones : List Bool := [true]
  /-- All calls that were ever made, the earliest first. -/
  calls : List Call := []
  /-- What has been counted. The latest notice is the first. -/
  notices : List Notice := []
  /-- The events that were taken, in the order in which they were. -/
  accepted : List Event := []
  received : List Event := []
  /-- The receiver has been told that no event can come any more. -/
  sawEnd : Bool := false

namespace SharedCollector

/-- What can happen at a collector. Clones and calls are named by their places. -/
inductive Action where
  | clone (k : Nat)
  /-- A clone is given up. -/
  | drop (k : Nat)
  /-- A call of a clone begins. -/
  | call (k : Nat) (e : Event)
  /-- A call takes its next step. -/
  | proceed (n : Nat)
  /-- A clone closes the collector (`Collector.close`). -/
  | close (k : Nat)
  /-- The receiver gets an event or is told that none can come. -/
  | receive
  /-- The receiver is given up. -/
  | abandon

/-- A collector before the first call (`Collector.new`). -/
def start (capacity : Nat) : SharedCollector := { queue := { capacity } }

/-- What a clone that is held says if it is asked whether the collector is closed
(`Collector.is_closed`). -/
def isClosed? (k : Nat) (s : SharedCollector) : Option Bool :=
  if s.clones[k]? = some true then some (!s.queue.hasSource) else none

/-- Moves a call to a stage. -/
def setStage (n : Nat) (c : Call) (stage : Call.Stage) (s : SharedCollector) : SharedCollector :=
  { s with calls := s.calls.set n { c with stage } }

/-- A clone is given up, and with the last one the sender. -/
def drop (k : Nat) (s : SharedCollector) : SharedCollector :=
  let clones := s.clones.set k false
  { s with clones, queue := if clones.any id then s.queue else s.queue.close }

/-- The next step of a call (`Collector.collect`). -/
def proceed (n : Nat) (c : Call) (s : SharedCollector) : Option SharedCollector :=
  match c.stage with
  | .waiting => some (s.setStage n c .inside)
  | .inside =>
    if s.queue.hasSource then some (s.setStage n c .sending)
    else some (s.setStage n c (.answered (.turnedAway .closed c.event)))
  | .sending =>
    let (answer, queue) := Collector.send c.event s.queue
    some ({ s with queue, accepted := s.accepted ++ answer.taken?.toList }.setStage n c
      (.answered answer))
  | .answered answer =>
    some ({ s with notices := answer :: s.notices }.setStage n c (.counted answer))
  | .counted answer => some (s.setStage n c (.finished answer))
  | .finished _ => none

/-- The receiver gets the first event. It has to wait if there is none but one can come. -/
def receive (s : SharedCollector) : Option SharedCollector :=
  match s.queue.take? with
  | some (e, queue) => some { s with queue, received := s.received ++ [e] }
  | none => if s.queue.ended then some { s with sawEnd := true } else none

/-- One step, if it is possible. A clone in use is not given up. -/
def step (s : SharedCollector) : Action → Option SharedCollector
  | .clone k =>
    if s.clones[k]? = some true then some { s with clones := s.clones ++ [true] } else none
  | .drop k =>
    if s.clones[k]? = some true ∧ s.calls.all (fun c => c.clone != k || c.isOver) then
      some (s.drop k)
    else none
  | .call k e =>
    if s.clones[k]? = some true then some { s with calls := s.calls ++ [⟨k, e, .waiting⟩] }
    else none
  | .proceed n => s.calls[n]?.bind fun c => s.proceed n c
  | .close k =>
    if s.clones[k]? = some true ∧ s.calls.all (!·.isInside) then
      some { s with queue := s.queue.close }
    else none
  | .receive => if s.queue.hasSink then s.receive else none
  | .abandon => if s.queue.hasSink then some { s with queue := s.queue.abandon } else none

/-- Some steps one after the other, if each is possible in its turn. -/
def run (s : SharedCollector) (actions : List Action) : Option SharedCollector :=
  actions.foldlM step s

/-- The metrics, from what they were before the first call. -/
def metrics (before : Metrics) (s : SharedCollector) : Metrics :=
  s.notices.foldr Notice.count before

end SharedCollector
end ProxyMeter.Pipeline
