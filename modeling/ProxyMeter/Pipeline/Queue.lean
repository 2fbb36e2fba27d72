/-!
# Bounded queues

A queue gives its items out in the order in which it took them and never holds more than its
capacity. It has an end where items are offered and an end where they are taken, and each of the two
can be given up. When nobody offers any more, what is left can still be taken.
-/

namespace ProxyMeter.Pipeline

/-- A bounded queue, first in, first out. -/
structure Queue (α : Type) where
  capacity : Nat
  items : List α := []
  /-- Somebody can still offer items. -/
  hasSource : Bool := true
  /-- Somebody can still take items. -/
  hasSink : Bool := true

/-- Why a queue does not take an item. -/
inductive Refusal where
  | full
  /-- Nobody takes items any more. -/
  | abandoned
  deriving DecidableEq, Repr

namespace Queue

variable {α : Type}

/-- The most items that a queue can have room for. -/
def widest : Nat := (UInt64.size - 1) / 8

/-- An empty queue; there is none without any room, and none with too much. -/
def ofCapacity? (capacity : Nat) : Option (Queue α) :=
  if 0 < capacity ∧ capacity ≤ widest then some { capacity } else none

/-- Puts an item at the end. A queue that nobody takes from refuses it even if there is room. -/
def offer (a : α) (q : Queue α) : Except Refusal (Queue α) :=
  if q.hasSink then
    if q.items.length < q.capacity then .ok { q with items := q.items ++ [a] } else .error .full
  else .error .abandoned

/-- An item is taken when somebody takes items and there is room; it is then the last. -/
theorem offer_eq_ok_iff (a : α) (q q' : Queue α) :
    q.offer a = .ok q' ↔
      q.hasSink = true ∧ q.items.length < q.capacity ∧ q' = { q with items := q.items ++ [a] } := by
  unfold offer
  split
  · next sink =>
    split
    · next room => simp [sink, room, eq_comm]
    · next full => simp [full]
  · next gone => simp [gone]

/-- The first item and the queue without it. -/
def take? (q : Queue α) : Option (α × Queue α) :=
  match q.items with
  | [] => none
  | a :: rest => some (a, { q with items := rest })

/-- No item is left and none can come. -/
def ended (q : Queue α) : Bool := q.items.isEmpty && !q.hasSource

/-- Ended means empty and without a source. -/
theorem ended_iff (q : Queue α) : q.ended = true ↔ q.items = [] ∧ q.hasSource = false := by
  simp [ended]

/-- Nobody offers items from now on. -/
def close (q : Queue α) : Queue α := { q with hasSource := false }

/-- Nobody takes items from now on; those that wait are lost. -/
def abandon (q : Queue α) : Queue α := { q with items := [], hasSink := false }

/-- Offers items one by one, and counts those that are refused. -/
def offerAll (q : Queue α) : List α → Nat × Queue α
  | [] => (0, q)
  | a :: rest =>
    match q.offer a with
    | .ok q => q.offerAll rest
    | .error _ => let (refused, q) := q.offerAll rest; (refused + 1, q)

end Queue

end ProxyMeter.Pipeline
