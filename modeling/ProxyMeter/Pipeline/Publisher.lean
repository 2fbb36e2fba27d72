import ProxyMeter.Pipeline.Notice
import ProxyMeter.Store.Repository

/-!
# The publisher

Records leave the pipeline here. They are gathered into batches in the order in which they come, and
a batch is written when it has reached its limit, when a tick of the clock finds it not empty, or
when no more records can come. While a batch is being written the next records wait in the queue. A
batch whose write fails is lost, and nothing else is.

Ticks come at multiples of the interval. A tick that is seen more than `tolerance` late makes the
ones in between fall away.
-/

namespace ProxyMeter.Pipeline

open Traffic Store

namespace Publisher

/-- What is being done with the records that have left the queue (the loop of `Publisher.run`). -/
inductive Phase where
  | gathering
  /-- A batch is being written. After the last one the publisher is gone. -/
  | writing (records : List Record) (since : Nat) (last : Bool)
  | gone

/-- A write that takes longer is given up, in milliseconds (`FLUSH_TIMEOUT`). -/
def writeLimit : Nat := 30000

/-- A tick may be seen so late, in milliseconds, that the next one still follows at its own time. -/
def tolerance : Nat := 5

/-- The most records that room can be set aside for. -/
def largestBatch : Nat := (Nat.pow 2 63 - 1) / 152

end Publisher

/-- The end of the pipeline, and the store behind it. Times are milliseconds since the start. -/
structure Publisher (σ : Type) where
  queue : Queue Record
  /-- Records in a full batch. -/
  limit : Nat
  limit_pos : 0 < limit
  /-- The time between two ticks. -/
  interval : Nat
  interval_pos : 0 < interval
  /-- When the next tick is due. -/
  deadline : Nat
  batch : List Record := []
  phase : Publisher.Phase := .gathering
  /-- The signal to stop has been seen. -/
  draining : Bool := false
  store : σ

namespace Publisher

variable {σ : Type}

/-- Whether a publisher can work: its clock has to tick, and its batches need room. -/
def works (batchSize interval : Nat) : Bool := 0 < interval && max 1 batchSize ≤ largestBatch

/-- A publisher before its first step (`Publisher.new`). A limit of zero counts as one. One that
cannot work is gone at once, and nobody takes from its queue. -/
def start (queue : Queue Record) (batchSize interval : Nat) (store : σ) : Publisher σ :=
  { queue := if works batchSize interval then queue else queue.abandon
    limit := max 1 batchSize
    limit_pos := by omega
    interval := max 1 interval
    interval_pos := by omega
    deadline := max 1 interval
    phase := if works batchSize interval then .gathering else .gone
    store }

/-- What the publisher can do next (the branches of `Publisher.run`). -/
inductive Move where
  /-- Take a record from the queue. -/
  | take
  /-- See that a tick is due. -/
  | tick
  /-- See the signal to stop. -/
  | heed
  /-- See that no record can come any more. -/
  | finish
  /-- The write in progress comes to its end. -/
  | written (tookMillis : Float)
  /-- The write in progress fails for a reason that is not in the store. -/
  | failed (fault : Fault) (tookMillis : Float)
  /-- The write in progress has taken too long. -/
  | expired (tookMillis : Float)

/-- The deadline after the one that is seen at `now`. -/
def nextDeadline (now : Nat) (p : Publisher σ) : Nat :=
  if p.deadline + tolerance < now then
    now + p.interval - (now - p.deadline) % p.interval
  else p.deadline + p.interval

/-- Begins to write the batch (the call of `Publisher.flush`). -/
def write (now : Nat) (last : Bool) (p : Publisher σ) : Publisher σ :=
  { p with batch := [], phase := .writing p.batch now last }

/-- What follows a write: the publisher is gone after the last one (the end of
`Publisher.flush`). -/
def settled (last : Bool) (p : Publisher σ) : List Notice × Publisher σ :=
  if last then ([.publisherGone], { p with phase := .gone, queue := p.queue.abandon })
  else ([], { p with phase := .gathering })

/-- A batch is lost. -/
def lose (records : List Record) (last : Bool) (fault : WriteFault) (took : Float)
    (p : Publisher σ) : List Notice × Publisher σ :=
  let (notices, p) := p.settled last
  (.lost records fault took :: notices, p)

/-- One step, if it is possible at this time; `stop` is the signal to stop (`Publisher.run` and
`Publisher.flush`). -/
def step [Repository σ] (now : Nat) (stop : Bool) (p : Publisher σ) :
    Move → Option (List Notice × Publisher σ)
  | .take =>
    match p.phase, p.queue.take? with
    | .gathering, some (r, queue) =>
      let p := { p with queue, batch := p.batch ++ [r] }
      some ([], if p.limit ≤ p.batch.length then p.write now false else p)
    | _, _ => none
  | .tick =>
    match p.phase with
    | .gathering =>
      if p.deadline ≤ now then
        let p := { p with deadline := p.nextDeadline now }
        if p.batch.isEmpty then some ([], p)
        else some ([.due p.batch.length], p.write now false)
      else none
    | _ => none
  | .heed =>
    match p.phase with
    | .gathering =>
      if stop && !p.draining then some ([.publisherDraining], { p with draining := true }) else none
    | _ => none
  | .finish =>
    match p.phase with
    | .gathering =>
      if p.queue.ended then
        if p.batch.isEmpty then some (p.settled true)
        else some ([.lastWrite p.batch.length], p.write now true)
      else none
    | _ => none
  | .written took =>
    match p.phase with
    | .writing records _ last =>
      match Repository.save records p.store with
      | .ok store =>
        let (notices, p) := { p with store }.settled last
        some (.stored records took :: notices, p)
      | .error fault => some (p.lose records last (.refused fault) took)
    | _ => none
  | .failed fault took =>
    match p.phase with
    | .writing records _ last => some (p.lose records last (.refused fault) took)
    | _ => none
  | .expired took =>
    match p.phase with
    | .writing records since last =>
      if since + writeLimit ≤ now then
        some (p.lose records last (.timedOut (.ofMillis writeLimit)) took)
      else none
    | _ => none

end Publisher

end ProxyMeter.Pipeline
