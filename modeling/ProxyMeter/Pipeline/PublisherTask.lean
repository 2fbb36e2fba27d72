import ProxyMeter.Pipeline.Publisher

/-!
# The publisher on its own

A publisher between whoever sends it records and its store, with what has gone through it. Its
signal to stop and its clock come from outside.

`PublisherTask.step` is what may happen next, in any order.
-/

namespace ProxyMeter.Pipeline

open Store Traffic

variable {σ : Type}

namespace Publisher

/-- Why a batch is handed to the store. -/
inductive Occasion where
  /-- It has reached its limit. -/
  | full
  | tick
  /-- No more records can come. -/
  | closed
  deriving DecidableEq

/-- A batch that is handed to the store: what `Publisher.flush` gives to `save_batch`. -/
structure Delivery where
  records : List Record
  occasion : Occasion

/-- The occasion on which a move hands over a batch, if it does. -/
def Move.occasion? : Move → Option Occasion
  | .take => some .full
  | .tick => some .tick
  | .finish => some .closed
  | _ => none

/-- The records that a move takes from the queue. -/
def received (p : Publisher σ) : Move → List Record
  | .take => p.queue.items.take 1
  | _ => []

/-- The batch that a move has handed to the store, seen from the publisher after it. -/
def delivered (move : Move) (p : Publisher σ) : List Delivery :=
  match move.occasion?, p.phase with
  | some occasion, .writing records _ _ => [⟨records, occasion⟩]
  | _, _ => []

end Publisher

/-- A publisher that runs (`Publisher.run`), whoever sends it records, and what has gone through
it. -/
structure PublisherTask (σ : Type) where
  publisher : Publisher σ
  /-- The signal to stop has been given. -/
  stop : Bool := false
  /-- Milliseconds since the start. -/
  now : Nat := 0
  notices : List Notice := []
  /-- The records that the publisher has taken from its queue, the earliest first. -/
  received : List Record := []
  /-- The batches that it has handed to the store, the earliest first. -/
  delivered : List Publisher.Delivery := []

namespace PublisherTask

open Publisher (Move)

/-- What can happen to a publisher. -/
inductive Action where
  /-- A record finds room in the queue. -/
  | send (r : Record)
  /-- No more records are sent. -/
  | close
  /-- The signal to stop is given. -/
  | cancel
  /-- Time passes. -/
  | pass (millis : Nat)
  | move (move : Move)

/-- A publisher before its first step (`Publisher.new`). -/
def start (capacity batchSize interval : Nat) (store : σ) : PublisherTask σ :=
  { publisher := .start { capacity } batchSize interval store }

/-- What has gone through the publisher after one of its moves. -/
def moved (move : Move) (notices : List Notice) (publisher : Publisher σ) (t : PublisherTask σ) :
    PublisherTask σ :=
  { t with
    publisher
    notices := notices.reverse ++ t.notices
    received := t.received ++ t.publisher.received move
    delivered := t.delivered ++ publisher.delivered move }

/-- One step, if it is possible. -/
def step [Repository σ] (t : PublisherTask σ) : Action → Option (PublisherTask σ)
  | .send r =>
    if t.publisher.queue.hasSource then
      match t.publisher.queue.offer r with
      | .ok queue => some { t with publisher := { t.publisher with queue } }
      | .error _ => none
    else none
  | .close => some { t with publisher := { t.publisher with queue := t.publisher.queue.close } }
  | .cancel => some { t with stop := true }
  | .pass millis => some { t with now := t.now + millis }
  | .move move =>
    (t.publisher.step t.now t.stop move).map fun (notices, publisher) =>
      t.moved move notices publisher

/-- Some steps one after the other, if each is possible in its turn. -/
def run [Repository σ] (t : PublisherTask σ) (actions : List Action) : Option (PublisherTask σ) :=
  actions.foldlM step t

/-- The metrics of the publisher. -/
def metrics (t : PublisherTask σ) : Metrics := t.notices.foldr Notice.count {}

end PublisherTask
end ProxyMeter.Pipeline
