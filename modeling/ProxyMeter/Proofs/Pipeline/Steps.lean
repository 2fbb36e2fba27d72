import ProxyMeter.Pipeline.State

/-!
# What one step of the pipeline does

`State.step` and `Publisher.step` as relations with one constructor for each way in which a step can
go, with everything that must hold for it to be possible and everything that it changes. Proofs
about runs take steps apart with `State.Change.of_step` and never unfold the step functions.
-/

namespace ProxyMeter.Pipeline

open Calendar Store Traffic

variable {σ : Type}

namespace Publisher

/-- The notices with which a write is settled. -/
def farewell (last : Bool) : List Notice := if last then [.publisherGone] else []

/-- The publisher after a write is settled: gone after the last one. -/
def afterWrite (last : Bool) (p : Publisher σ) : Publisher σ :=
  if last then { p with phase := .gone, queue := p.queue.abandon }
  else { p with phase := .gathering }

@[simp] theorem batch_afterWrite (last : Bool) (p : Publisher σ) :
    (p.afterWrite last).batch = p.batch := by
  cases last <;> rfl

@[simp] theorem limit_afterWrite (last : Bool) (p : Publisher σ) :
    (p.afterWrite last).limit = p.limit := by
  cases last <;> rfl

@[simp] theorem interval_afterWrite (last : Bool) (p : Publisher σ) :
    (p.afterWrite last).interval = p.interval := by
  cases last <;> rfl

@[simp] theorem deadline_afterWrite (last : Bool) (p : Publisher σ) :
    (p.afterWrite last).deadline = p.deadline := by
  cases last <;> rfl

@[simp] theorem store_afterWrite (last : Bool) (p : Publisher σ) :
    (p.afterWrite last).store = p.store := by
  cases last <;> rfl

/-- The queue's source is not the publisher's to give up. -/
@[simp] theorem hasSource_afterWrite (last : Bool) (p : Publisher σ) :
    (p.afterWrite last).queue.hasSource = p.queue.hasSource := by
  cases last <;> rfl

/-- What follows a write, as a pair of the two. -/
theorem settled_eq (last : Bool) (p : Publisher σ) :
    p.settled last = (farewell last, p.afterWrite last) := by
  cases last <;> rfl

/-- A move of the publisher: what must hold before it, its notices, and the publisher after it. -/
inductive Change [Repository σ] (now : Nat) (stop : Bool) (p : Publisher σ) :
    Move → List Notice → Publisher σ → Prop
  | take {r : Record} {rest : List Record} (gathering : p.phase = .gathering)
      (next : p.queue.items = r :: rest) (room : p.batch.length + 1 < p.limit) :
      Change now stop p .take []
        { p with queue := { p.queue with items := rest }, batch := p.batch ++ [r] }
  | fill {r : Record} {rest : List Record} (gathering : p.phase = .gathering)
      (next : p.queue.items = r :: rest) (full : p.limit ≤ p.batch.length + 1) :
      Change now stop p .take []
        { p with
          queue := { p.queue with items := rest }
          batch := []
          phase := .writing (p.batch ++ [r]) now false }
  | idle (gathering : p.phase = .gathering) (due : p.deadline ≤ now) (empty : p.batch = []) :
      Change now stop p .tick [] { p with deadline := p.nextDeadline now }
  | due (gathering : p.phase = .gathering) (due : p.deadline ≤ now) (begun : p.batch ≠ []) :
      Change now stop p .tick [.due p.batch.length]
        { p with
          deadline := p.nextDeadline now
          batch := []
          phase := .writing p.batch now false }
  | heed (gathering : p.phase = .gathering) (signal : stop = true) (first : p.draining = false) :
      Change now stop p .heed [.publisherDraining] { p with draining := true }
  | part (gathering : p.phase = .gathering) (ended : p.queue.ended = true) (empty : p.batch = []) :
      Change now stop p .finish [.publisherGone] (p.afterWrite true)
  | finish (gathering : p.phase = .gathering) (ended : p.queue.ended = true)
      (begun : p.batch ≠ []) :
      Change now stop p .finish [.lastWrite p.batch.length]
        { p with batch := [], phase := .writing p.batch now true }
  | stored {records : List Record} {since : Nat} {last : Bool} {store : σ} (took : Float)
      (writing : p.phase = .writing records since last)
      (saved : Repository.save records p.store = .ok store) :
      Change now stop p (.written took) (.stored records took :: farewell last)
        ({ p with store }.afterWrite last)
  | refused {records : List Record} {since : Nat} {last : Bool} {fault : Fault} (took : Float)
      (writing : p.phase = .writing records since last)
      (unsaved : Repository.save records p.store = .error fault) :
      Change now stop p (.written took) (.lost records (.refused fault) took :: farewell last)
        (p.afterWrite last)
  | failed {records : List Record} {since : Nat} {last : Bool} (fault : Fault) (took : Float)
      (writing : p.phase = .writing records since last) :
      Change now stop p (.failed fault took) (.lost records (.refused fault) took :: farewell last)
        (p.afterWrite last)
  | expired {records : List Record} {since : Nat} {last : Bool} (took : Float)
      (writing : p.phase = .writing records since last) (late : since + writeLimit ≤ now) :
      Change now stop p (.expired took)
        (.lost records (.timedOut (.ofMillis writeLimit)) took :: farewell last)
        (p.afterWrite last)

/-- Every possible move of the publisher is one of these. -/
theorem Change.of_step [Repository σ] {now : Nat} {stop : Bool} {p p' : Publisher σ} {move : Move}
    {notices : List Notice} (h : p.step now stop move = some (notices, p')) :
    Change now stop p move notices p' := by
  cases move with
  | take =>
    simp only [step, Queue.take?] at h
    split at h
    · next r queue gathering next =>
      split at next
      · cases next
      · next rest items =>
        cases next
        split at h
        · next full =>
          cases h
          exact .fill gathering items (by simpa using full)
        · next room =>
          cases h
          exact .take gathering items (by simpa using room)
    · cases h
  | tick =>
    simp only [step] at h
    split at h
    · next gathering =>
      split at h
      · next due =>
        split at h
        · next empty =>
          cases h
          exact .idle gathering due (List.isEmpty_iff.mp empty)
        · next begun =>
          cases h
          exact .due gathering due fun empty => begun (List.isEmpty_iff.mpr empty)
      · cases h
    · cases h
  | heed =>
    simp only [step] at h
    split at h
    · next gathering =>
      split at h
      · next signal =>
        cases h
        simp only [Bool.and_eq_true, Bool.not_eq_true'] at signal
        exact .heed gathering signal.1 signal.2
      · cases h
    · cases h
  | finish =>
    simp only [step] at h
    split at h
    · next gathering =>
      split at h
      · next ended =>
        split at h
        · next empty =>
          cases h
          exact .part gathering ended (List.isEmpty_iff.mp empty)
        · next begun =>
          cases h
          exact .finish gathering ended fun empty => begun (List.isEmpty_iff.mpr empty)
      · cases h
    · cases h
  | written took =>
    simp only [step] at h
    split at h
    · next records since last writing =>
      split at h
      · next store saved =>
        rw [settled_eq] at h
        cases h
        exact .stored took writing saved
      · next fault unsaved =>
        rw [lose, settled_eq] at h
        cases h
        exact .refused took writing unsaved
    · cases h
  | failed fault took =>
    simp only [step] at h
    split at h
    · next records since last writing =>
      rw [lose, settled_eq] at h
      cases h
      exact .failed fault took writing
    · cases h
  | expired took =>
    simp only [step] at h
    split at h
    · next records since last writing =>
      split at h
      · next late =>
        rw [lose, settled_eq] at h
        cases h
        exact .expired took writing late
      · cases h
    · cases h

/-- A publisher that is gone does not move. -/
theorem Change.phase_ne_gone [Repository σ] {now : Nat} {stop : Bool} {p p' : Publisher σ}
    {move : Move} {notices : List Notice} (h : p.Change now stop move notices p') :
    p.phase ≠ .gone := by
  intro gone
  cases h with
  | take phase | fill phase | idle phase | due phase | heed phase | part phase | finish phase =>
    cases gone.symm.trans phase
  | stored _ phase | refused _ phase | failed _ _ phase | expired _ phase =>
    cases gone.symm.trans phase

end Publisher

namespace State

/-- A worker that leaves gives one notice of it. -/
theorem leave_notices (s : State σ) (n : Nat) (w : Worker) :
    (s.leave n w).notices = .workerGone n :: s.notices := by
  unfold leave
  dsimp only
  split <;> rfl

/-- A worker that leaves is gone, and every other worker stays as it is. -/
theorem leave_workers (s : State σ) (n : Nat) (w : Worker) :
    (s.leave n w).workers = s.workers.set n { w with phase := .gone } := by
  unfold leave
  dsimp only
  split <;> rfl

/-- A worker that leaves takes nothing from the publisher but perhaps the source of its queue. -/
theorem leave_publisher (s : State σ) (n : Nat) (w : Worker) : ∃ hasSource,
    (s.leave n w).publisher = { s.publisher with queue := { s.publisher.queue with hasSource } } :=
    by
  unfold leave
  dsimp only
  split
  · exact ⟨false, rfl⟩
  · exact ⟨s.publisher.queue.hasSource, rfl⟩

/-- A worker that leaves does not write to the store. -/
theorem leave_store (s : State σ) (n : Nat) (w : Worker) :
    (s.leave n w).publisher.store = s.publisher.store := by
  obtain ⟨hasSource, publisher⟩ := s.leave_publisher n w
  rw [publisher]

/-- A step of the pipeline: what must hold before it, and the pipeline after it. -/
inductive Change [Repository σ] (s : State σ) : Action → State σ → Prop
  | take (e : Event) (source : s.input.hasSource = true) (sink : s.input.hasSink = true)
      (room : s.input.items.length < s.input.capacity) :
      Change s (.collect e)
        ({ s with input := { s.input with items := s.input.items ++ [e] } }.noting
          [.collected e])
  | turnAway (e : Event) {why : Turned}
      (turned : Collector.collect e s.input = (.turnedAway why e, s.input)) :
      Change s (.collect e) (s.noting [.turnedAway why e])
  | close : Change s .close { s with input := s.input.close }
  | cancel : Change s .cancel { s with stop := true }
  | pass (millis : Nat) : Change s (.pass millis) { s with now := s.now + millis }
  | listen {n : Nat} {draining : Bool} (waiting : s.workers[n]? = some ⟨.waiting, draining⟩)
      (free : s.inputFree = true) :
      Change s (.listen n) (s.setWorker n ⟨.listening, draining⟩)
  | receive {n : Nat} {draining : Bool} {e : Event} {rest : List Event}
      (listening : s.workers[n]? = some ⟨.listening, draining⟩)
      (next : s.input.items = e :: rest) :
      Change s (.receive n)
        ({ s with input := { s.input with items := rest } }.setWorker n ⟨.holding e, draining⟩)
  | heed {n : Nat} (listening : s.workers[n]? = some ⟨.listening, false⟩)
      (signal : s.stop = true) :
      Change s (.heed n) ((s.setWorker n ⟨.waiting, true⟩).noting [.workerDraining n])
  | leave {n : Nat} {draining : Bool} (listening : s.workers[n]? = some ⟨.listening, draining⟩)
      (ended : s.input.ended = true) :
      Change s (.leave n) (s.leave n ⟨.listening, draining⟩)
  | normalise {n : Nat} {draining : Bool} {e : Event} (createdAt : Instant) (took : Float)
      (holding : s.workers[n]? = some ⟨.holding e, draining⟩) :
      Change s (.normalise n createdAt took)
        ((s.setWorker n ⟨.handing ⟨e, createdAt⟩, draining⟩).noting
          [.normalised ⟨e, createdAt⟩ took])
  | hand {n : Nat} {draining : Bool} {r : Record}
      (handing : s.workers[n]? = some ⟨.handing r, draining⟩)
      (sink : s.publisher.queue.hasSink = true)
      (room : s.publisher.queue.items.length < s.publisher.queue.capacity) :
      Change s (.hand n)
        { s.setWorker n ⟨.waiting, draining⟩ with
          publisher := { s.publisher with
            queue := { s.publisher.queue with items := s.publisher.queue.items ++ [r] } } }
  | drop {n : Nat} {draining : Bool} {r : Record} {why : Refusal}
      (handing : s.workers[n]? = some ⟨.handing r, draining⟩)
      (refused : s.publisher.queue.offer r = .error why) :
      Change s (.hand n) ((s.setWorker n ⟨.waiting, draining⟩).noting [.dropped why r])
  | publisher {move : Publisher.Move} {notices : List Notice} {publisher : Publisher σ}
      (change : s.publisher.Change s.now s.stop move notices publisher) :
      Change s (.publisher move) ({ s with publisher }.noting notices)

/-- Collecting takes the event or turns it away. -/
theorem Change.of_collect [Repository σ] (s : State σ) (e : Event) :
    Change s (.collect e) (s.collect e) := by
  by_cases source : s.input.hasSource = true
  · cases offered : s.input.offer e with
    | ok input =>
      obtain ⟨sink, room, rfl⟩ := (Queue.offer_eq_ok_iff e s.input input).mp offered
      simpa [State.collect, Collector.collect, Collector.send, source, offered] using
        Change.take e source sink room
    | error why =>
      have turned : Collector.collect e s.input = (.turnedAway (.refused why) e, s.input) := by
        simp [Collector.collect, Collector.send, source, offered]
      simpa [State.collect, turned] using Change.turnAway e turned
  · have turned : Collector.collect e s.input = (.turnedAway .closed e, s.input) := by
      simp [Collector.collect, source]
    simpa [State.collect, turned] using Change.turnAway e turned

/-- Handing a record over puts it into the queue of the publisher or drops it. -/
theorem Change.of_hand [Repository σ] (s : State σ) {n : Nat} {draining : Bool} {r : Record}
    (handing : s.workers[n]? = some ⟨.handing r, draining⟩) :
    Change s (.hand n) (s.hand n ⟨.handing r, draining⟩ r) := by
  cases offered : s.publisher.queue.offer r with
  | ok queue =>
    obtain ⟨sink, room, rfl⟩ := (Queue.offer_eq_ok_iff r s.publisher.queue queue).mp offered
    simpa [State.hand, setWorker, offered] using Change.hand handing sink room
  | error why => simpa [State.hand, setWorker, offered] using Change.drop handing offered

/-- Every possible step of the pipeline is one of these. -/
theorem Change.of_step [Repository σ] {s s' : State σ} {a : Action} (h : s.step a = some s') :
    Change s a s' := by
  cases a with
  | collect e =>
    cases h
    exact .of_collect s e
  | close =>
    cases h
    exact .close
  | cancel =>
    cases h
    exact .cancel
  | pass millis =>
    cases h
    exact .pass millis
  | listen n =>
    simp only [step] at h
    split at h
    · next draining waiting =>
      split at h
      · next free =>
        cases h
        exact .listen waiting free
      · cases h
    · cases h
  | receive n =>
    simp only [step, Queue.take?] at h
    split at h
    · next draining e input listening next =>
      split at next
      · cases next
      · next rest items =>
        cases next
        cases h
        exact .receive listening items
    · cases h
  | heed n =>
    simp only [step] at h
    split at h
    · next listening =>
      split at h
      · next signal =>
        cases h
        exact .heed listening signal
      · cases h
    · cases h
  | leave n =>
    simp only [step] at h
    split at h
    · next draining listening =>
      split at h
      · next ended =>
        cases h
        exact .leave listening ended
      · cases h
    · cases h
  | normalise n createdAt took =>
    simp only [step] at h
    split at h
    · next e draining holding =>
      cases h
      exact .normalise createdAt took holding
    · cases h
  | hand n =>
    simp only [step] at h
    split at h
    · next r draining handing =>
      cases h
      exact .of_hand s handing
    · cases h
  | publisher move =>
    simp only [step, Option.map_eq_some_iff] at h
    obtain ⟨⟨notices, publisher⟩, step, rfl⟩ := h
    exact .publisher (Publisher.Change.of_step step)

end State
end ProxyMeter.Pipeline
