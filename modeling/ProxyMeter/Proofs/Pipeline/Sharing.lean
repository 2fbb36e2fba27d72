import ProxyMeter.Pipeline.SharedCollector
import ProxyMeter.Proofs.Pipeline.Counting

/-!
# What one step of a shared collector does

`SharedCollector.step` as a relation with one constructor for each way in which a step can go, and
what is told by a call and by an action.
-/

namespace ProxyMeter.Pipeline

open Metrics Traffic

namespace Call

/-- How many steps the call has before it at most. -/
def left (c : Call) : Nat :=
  match c.stage with
  | .waiting => 5
  | .inside => 4
  | .sending => 3
  | .answered _ => 2
  | .counted _ => 1
  | .finished _ => 0

/-- What became of the event, as soon as that is settled. -/
def answer? (c : Call) : Option Notice :=
  match c.stage with
  | .answered answer | .counted answer | .finished answer => some answer
  | _ => none

/-- The answer, as soon as it has been counted. -/
def counted? (c : Call) : Option Notice :=
  match c.stage with
  | .counted answer | .finished answer => some answer
  | _ => none

/-- The event, if it was taken. -/
def taken? (c : Call) : Option Event := c.answer?.bind Notice.taken?

/-- Whether the call has been counted as one whose event was taken. -/
def countedIn (c : Call) : Bool := (c.counted?.bind Notice.taken?).isSome

/-- Whether the call has been counted as one whose event was turned away. -/
def countedOut (c : Call) : Bool := (c.counted?.bind Notice.turned?).isSome

end Call

namespace SharedCollector

/-- Whether somebody closes the collector. -/
def Action.isClose : Action → Bool
  | .close _ => true
  | _ => false

/-- Whether the receiver is given up. -/
def Action.isAbandon : Action → Bool
  | .abandon => true
  | _ => false

/-- Whether the receiver asks for an event. -/
def Action.isReceive : Action → Bool
  | .receive => true
  | _ => false

theorem queue_drop (k : Nat) (s : SharedCollector) :
    (s.drop k).queue = if (s.clones.set k false).any id then s.queue else s.queue.close := rfl

/-- A step of the collector: what must hold before it, and the collector after it. -/
inductive Change (s : SharedCollector) : Action → SharedCollector → Prop
  | clone {k : Nat} (held : s.clones[k]? = some true) :
      Change s (.clone k) { s with clones := s.clones ++ [true] }
  | drop {k : Nat} (held : s.clones[k]? = some true)
      (idle : ∀ c ∈ s.calls, c.isOver = false → c.clone ≠ k) : Change s (.drop k) (s.drop k)
  | call {k : Nat} (e : Event) (held : s.clones[k]? = some true) :
      Change s (.call k e) { s with calls := s.calls ++ [⟨k, e, .waiting⟩] }
  | enter {n : Nat} {c : Call} (found : s.calls[n]? = some c) (stage : c.stage = .waiting) :
      Change s (.proceed n) (s.setStage n c .inside)
  | look {n : Nat} {c : Call} (found : s.calls[n]? = some c) (stage : c.stage = .inside)
      (source : s.queue.hasSource = true) : Change s (.proceed n) (s.setStage n c .sending)
  | refuse {n : Nat} {c : Call} (found : s.calls[n]? = some c) (stage : c.stage = .inside)
      (gone : s.queue.hasSource = false) :
      Change s (.proceed n) (s.setStage n c (.answered (.turnedAway .closed c.event)))
  | take {n : Nat} {c : Call} (found : s.calls[n]? = some c) (stage : c.stage = .sending)
      (sink : s.queue.hasSink = true) (room : s.queue.items.length < s.queue.capacity) :
      Change s (.proceed n)
        ({ s with
          queue := { s.queue with items := s.queue.items ++ [c.event] }
          accepted := s.accepted ++ [c.event] }.setStage n c (.answered (.collected c.event)))
  | fail {n : Nat} {c : Call} {why : Refusal} (found : s.calls[n]? = some c)
      (stage : c.stage = .sending) (refused : s.queue.offer c.event = .error why) :
      Change s (.proceed n)
        (s.setStage n c (.answered (.turnedAway (.refused why) c.event)))
  | count {n : Nat} {c : Call} {answer : Notice} (found : s.calls[n]? = some c)
      (stage : c.stage = .answered answer) :
      Change s (.proceed n)
        ({ s with notices := answer :: s.notices }.setStage n c (.counted answer))
  | leave {n : Nat} {c : Call} {answer : Notice} (found : s.calls[n]? = some c)
      (stage : c.stage = .counted answer) :
      Change s (.proceed n) (s.setStage n c (.finished answer))
  | close {k : Nat} (held : s.clones[k]? = some true) (free : ∀ c ∈ s.calls, c.isInside = false) :
      Change s (.close k) { s with queue := s.queue.close }
  | receive {e : Event} {rest : List Event} (sink : s.queue.hasSink = true)
      (next : s.queue.items = e :: rest) :
      Change s .receive
        { s with queue := { s.queue with items := rest }, received := s.received ++ [e] }
  | finish (sink : s.queue.hasSink = true) (ended : s.queue.ended = true) :
      Change s .receive { s with sawEnd := true }
  | abandon (sink : s.queue.hasSink = true) :
      Change s .abandon { s with queue := s.queue.abandon }

/-- Sending takes the event or turns it away. -/
theorem Change.of_send {s : SharedCollector} {n : Nat} {c : Call} (found : s.calls[n]? = some c)
    (stage : c.stage = .sending) :
    Change s (.proceed n)
      ({ s with
        queue := (Collector.send c.event s.queue).2
        accepted := s.accepted ++ (Collector.send c.event s.queue).1.taken?.toList }.setStage n c
          (.answered (Collector.send c.event s.queue).1)) := by
  cases offered : s.queue.offer c.event with
  | ok queue =>
    obtain ⟨sink, room, rfl⟩ := (Queue.offer_eq_ok_iff c.event s.queue queue).mp offered
    simpa [Collector.send, offered, Notice.taken?] using Change.take found stage sink room
  | error why =>
    simpa [Collector.send, offered, Notice.taken?] using Change.fail found stage offered

/-- Every possible step of the collector is one of these. -/
theorem Change.of_step {s s' : SharedCollector} {a : Action} (h : s.step a = some s') :
    Change s a s' := by
  cases a with
  | clone k =>
    obtain ⟨held, ⟨⟩⟩ := Option.ite_none_right_eq_some.mp h
    exact .clone held
  | drop k =>
    obtain ⟨⟨held, idle⟩, ⟨⟩⟩ := Option.ite_none_right_eq_some.mp h
    refine .drop held fun c member going same => ?_
    have free := List.all_eq_true.mp idle c member
    simp [going, same] at free
  | call k e =>
    obtain ⟨held, ⟨⟩⟩ := Option.ite_none_right_eq_some.mp h
    exact .call e held
  | proceed n =>
    obtain ⟨c, found, h⟩ := Option.bind_eq_some_iff.mp h
    unfold proceed at h
    split at h
    · next stage =>
      cases h
      exact .enter found stage
    · next stage =>
      split at h
      · next source =>
        cases h
        exact .look found stage source
      · next gone =>
        cases h
        exact .refuse found stage (Bool.eq_false_iff.mpr gone)
    · next stage =>
      cases h
      exact .of_send found stage
    · next answer stage =>
      cases h
      exact .count found stage
    · next answer stage =>
      cases h
      exact .leave found stage
    · cases h
  | close k =>
    obtain ⟨⟨held, free⟩, ⟨⟩⟩ := Option.ite_none_right_eq_some.mp h
    refine .close held fun c member => ?_
    simpa using List.all_eq_true.mp free c member
  | receive =>
    obtain ⟨sink, h⟩ := Option.ite_none_right_eq_some.mp h
    simp only [SharedCollector.receive, Queue.take?] at h
    split at h
    · next e queue next =>
      split at next
      · cases next
      · next rest items =>
        cases next
        cases h
        exact .receive sink items
    · obtain ⟨ended, ⟨⟩⟩ := Option.ite_none_right_eq_some.mp h
      exact .finish sink ended
  | abandon =>
    obtain ⟨sink, ⟨⟩⟩ := Option.ite_none_right_eq_some.mp h
    exact .abandon sink

end SharedCollector
end ProxyMeter.Pipeline
