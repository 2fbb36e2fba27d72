import ProxyMeter.Pipeline.State

/-!
# The pipeline on virtual time

A rehearsal runs a pipeline on a clock that stands still while anything can be done and then jumps
to the next tick or to the end of the write in progress. Of the steps that are possible the workers'
come first, the first worker's before the others', and records are taken before ticks are seen. How
long a write takes is settled when it begins.
-/

namespace ProxyMeter.Pipeline

open Calendar Store Traffic

/-- A pipeline on virtual time. -/
structure Rehearsal (σ : Type) where
  state : State σ
  /-- How long the writes take that begin from now on, in milliseconds. -/
  delay : Nat := 0
  /-- When the write in progress will have come to its end. -/
  writeEnd : Nat := 0
  /-- The time of day at the start. -/
  epoch : Instant := ⟨0, 0⟩

namespace Rehearsal

variable {σ : Type}

/-- What a worker can do next. -/
def workerAction? (r : Rehearsal σ) (n : Nat) (w : Worker) : Option Action :=
  match w.phase with
  | .waiting => if r.state.inputFree then some (.listen n) else none
  | .listening =>
    if !r.state.input.items.isEmpty then some (.receive n)
    else if r.state.input.ended then some (.leave n)
    else if r.state.stop && !w.draining then some (.heed n)
    else none
  | .holding _ => some (.normalise n (r.epoch.shift (r.state.now * 1000000)) 0)
  | .handing _ => some (.hand n)
  | .gone => none

/-- What the workers can do next. -/
def poolAction? (r : Rehearsal σ) : Option Action :=
  (r.state.workers.zipIdx).findSome? fun (w, n) => r.workerAction? n w

/-- What the publisher can do next. A write that is done in time is not given up. -/
def publisherAction? (r : Rehearsal σ) : Option Action :=
  let p := r.state.publisher
  match p.phase with
  | .gathering =>
    if !p.queue.items.isEmpty then some (.publisher .take)
    else if p.queue.ended then some (.publisher .finish)
    else if p.deadline ≤ r.state.now then some (.publisher .tick)
    else if r.state.stop && !p.draining then some (.publisher .heed)
    else none
  | .writing _ since _ =>
    if r.writeEnd ≤ r.state.now then some (.publisher (.written 0))
    else if since + Publisher.writeLimit ≤ r.state.now then some (.publisher (.expired 0))
    else none
  | .gone => none

/-- Whether a batch is being written. -/
def isWriting (r : Rehearsal σ) : Bool :=
  match r.state.publisher.phase with
  | .writing _ _ _ => true
  | _ => false

/-- Takes a step; nothing changes if it is not possible. -/
def act [Repository σ] (a : Action) (r : Rehearsal σ) : Rehearsal σ :=
  match r.state.step a with
  | none => r
  | some state =>
    let after := { r with state }
    if !r.isWriting && after.isWriting then { after with writeEnd := state.now + r.delay }
    else after

/-- Takes the steps that `choose` finds, at most `fuel` of them. -/
def drive [Repository σ] (choose : Rehearsal σ → Option Action) :
    Nat → Rehearsal σ → Rehearsal σ
  | 0, r => r
  | fuel + 1, r =>
    match choose r with
    | none => r
    | some a => drive choose fuel (r.act a)

/-- Steps enough for everything that can be done at one time, ticks seen late among them. -/
def fuel (r : Rehearsal σ) : Nat := r.state.weight + Publisher.tolerance + 2

/-- Lets the workers do all they can. -/
def restWorkers [Repository σ] (r : Rehearsal σ) : Rehearsal σ := drive poolAction? r.fuel r

/-- Lets everybody do all they can. -/
def rest [Repository σ] (r : Rehearsal σ) : Rehearsal σ :=
  drive (fun r => r.poolAction?.or r.publisherAction?) r.fuel r

/-- When the publisher will have something to do if nothing else happens. -/
def nextTime? (r : Rehearsal σ) : Option Nat :=
  match r.state.publisher.phase with
  | .gathering => some r.state.publisher.deadline
  | .writing _ since _ => some (min r.writeEnd (since + Publisher.writeLimit))
  | .gone => none

/-- Moves the clock to a time. -/
def clockTo [Repository σ] (time : Nat) (r : Rehearsal σ) : Rehearsal σ :=
  r.act (.pass (time - r.state.now))

/-- Lets time pass up to `target`, with at most `jumps` stops on the way. -/
def passTo [Repository σ] (target : Nat) : Nat → Rehearsal σ → Rehearsal σ
  | 0, r => r
  | jumps + 1, r =>
    match r.nextTime? with
    | some time =>
      if time < target then passTo target jumps (r.clockTo time).rest else (r.clockTo target).rest
    | none => (r.clockTo target).rest

/-- Lets a number of milliseconds pass. -/
def advance [Repository σ] (millis : Nat) (r : Rehearsal σ) : Rehearsal σ :=
  r.passTo (r.state.now + millis) (millis + 1)

/-- Lets time pass until the publisher has gone, through at most `jumps` writes. -/
def awaitEnd [Repository σ] : Nat → Rehearsal σ → Rehearsal σ
  | 0, r => r
  | jumps + 1, r =>
    match r.nextTime? with
    | none => r
    | some time => awaitEnd jumps (r.clockTo time).rest

/-- Runs until the publisher has gone; no record may be able to come any more. -/
def finish [Repository σ] (r : Rehearsal σ) : Rehearsal σ :=
  let r := r.rest
  awaitEnd r.fuel r

/-- Stops the pipeline and waits for its end (`Pipeline.shutdown`). -/
def shutdown [Repository σ] (r : Rehearsal σ) : Rehearsal σ :=
  let noting (n : Notice) (r : Rehearsal σ) : Rehearsal σ := { r with state := r.state.noting [n] }
  noting .stopped (((noting .stopping r).act .cancel).act .close).finish

end Rehearsal

end ProxyMeter.Pipeline
