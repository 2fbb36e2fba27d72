import ProxyMeter.Proofs.Pipeline.Deliveries
import ProxyMeter.Proofs.Pipeline.Shutdown

/-!
# Steps of a publisher on its own

`PublisherTask.step` as a relation with one constructor for each way in which a step can go, and
what every step keeps: the order of the records, the sizes of the batches, and what becomes of them.
-/

namespace ProxyMeter.Pipeline

open Store Traffic

variable {σ : Type}

namespace PublisherTask

open Publisher (Delivery Move Outcome outcome?)

/-- The record that is sent. -/
def Action.sent? : Action → Option Record
  | .send r => some r
  | _ => none

/-- The records that are sent. -/
def sent (actions : List Action) : List Record := actions.filterMap Action.sent?

/-- What becomes of writes is left open. -/
def Action.blind : Action → Action
  | .move m => .move m.blind
  | a => a

/-- What has become of the writes, the earliest first. -/
def outcomes (t : PublisherTask σ) : List Outcome := Notice.entries outcome? t.notices

/-- A step of a publisher on its own: what must hold before it, and the publisher after it. -/
inductive Change [Repository σ] (t : PublisherTask σ) : Action → PublisherTask σ → Prop
  | send {r : Record} (source : t.publisher.queue.hasSource = true)
      (sink : t.publisher.queue.hasSink = true)
      (room : t.publisher.queue.items.length < t.publisher.queue.capacity) :
      Change t (.send r)
        { t with publisher := { t.publisher with
          queue := { t.publisher.queue with items := t.publisher.queue.items ++ [r] } } }
  | close :
      Change t .close { t with publisher := { t.publisher with queue := t.publisher.queue.close } }
  | cancel : Change t .cancel { t with stop := true }
  | pass (millis : Nat) : Change t (.pass millis) { t with now := t.now + millis }
  | move {move : Move} {notices : List Notice} {publisher : Publisher σ}
      (change : t.publisher.Change t.now t.stop move notices publisher) :
      Change t (.move move) (t.moved move notices publisher)

/-- Every possible step is one of these. -/
theorem Change.of_step [Repository σ] {t t' : PublisherTask σ} {a : Action}
    (h : t.step a = some t') : t.Change a t' := by
  cases a with
  | send r =>
    simp only [step] at h
    split at h
    · next source =>
      split at h
      · next queue offered =>
        obtain ⟨sink, room, rfl⟩ := (Queue.offer_eq_ok_iff r t.publisher.queue queue).mp offered
        cases h
        exact .send source sink room
      · cases h
    · cases h
  | close =>
    cases h
    exact .close
  | cancel =>
    cases h
    exact .cancel
  | pass millis =>
    cases h
    exact .pass millis
  | move m =>
    simp only [step, Option.map_eq_some_iff] at h
    obtain ⟨⟨notices, publisher⟩, step, rfl⟩ := h
    exact .move (Publisher.Change.of_step step)

/-- Whoever sends records does so to a coherent publisher. -/
theorem coherent_change [Repository σ] {t t' : PublisherTask σ} {a : Action}
    (hc : t.publisher.Coherent) (h : t.Change a t') : t'.publisher.Coherent := by
  cases h with
  | send source sink =>
    refine ⟨hc.writing, fun phase => ?_, fun phase => ?_⟩
    · cases source.symm.trans (hc.last phase).2
    · cases sink.symm.trans (hc.gone phase).2.1
  | close => exact ⟨hc.writing, fun phase => ⟨(hc.last phase).1, rfl⟩, hc.gone⟩
  | cancel | pass => exact hc
  | move change => exact hc.change change

/-- What is sent waits in the queue, is gathered, or has been handed over, in this order. -/
structure Ordered (done : List Action) (t : PublisherTask σ) : Prop where
  coherent : t.publisher.Coherent
  fifo : t.received ++ t.publisher.queue.items = sent done
  batches : t.delivered.flatMap Delivery.records ++ t.publisher.batch = t.received

/-- Every step keeps the order. -/
theorem Ordered.change [Repository σ] {done : List Action} {t t' : PublisherTask σ} {a : Action}
    (ht : t.Ordered done) (h : t.Change a t') : t'.Ordered (done ++ [a]) := by
  have same (silent : a.sent? = none) : sent (done ++ [a]) = sent done := by
    simp [sent, silent]
  have coherent := coherent_change ht.coherent h
  cases h with
  | @send r =>
    refine ⟨coherent, ?_, ht.batches⟩
    show t.received ++ (t.publisher.queue.items ++ [r]) = sent (done ++ [.send r])
    rw [← List.append_assoc, ht.fifo]
    simp [sent, Action.sent?]
  | close | cancel | pass => exact ⟨coherent, ht.fifo.trans (same rfl).symm, ht.batches⟩
  | @move m notices publisher change =>
    refine ⟨coherent, ?_, ?_⟩
    · show t.received ++ t.publisher.received m ++ publisher.queue.items = _
      rw [List.append_assoc, change.received_eq ht.coherent, ht.fifo, same rfl]
    · show (t.delivered ++ publisher.delivered m).flatMap Delivery.records ++ publisher.batch =
        t.received ++ t.publisher.received m
      rw [List.flatMap_append, List.append_assoc, change.batch_eq, ← List.append_assoc, ht.batches]

/-- How large the batches are, and why. -/
structure Sized (limit : Nat) (done : List Action) (t : PublisherTask σ) : Prop where
  limit_eq : t.publisher.limit = limit
  room : t.publisher.batch.length < limit
  fits : ∀ d ∈ t.delivered, d.Fits limit
  ticks : ∀ d ∈ t.delivered, d.occasion = .tick → .move .tick ∈ done
  closing : ∀ d ∈ t.delivered, d.occasion = .closed → t.publisher.Closing
  last : ∀ d ∈ t.delivered.dropLast, d.occasion ≠ .closed

/-- A move hands over one batch at most. -/
theorem delivered_cases (p : Publisher σ) (move : Move) :
    p.delivered move = [] ∨ ∃ d, p.delivered move = [d] := by
  unfold Publisher.delivered
  split
  · exact .inr ⟨_, rfl⟩
  · exact .inl rfl

/-- Every step keeps the batches to their sizes. -/
theorem Sized.change [Repository σ] {limit : Nat} {done : List Action} {t t' : PublisherTask σ}
    {a : Action} (ht : t.Sized limit done) (h : t.Change a t') : t'.Sized limit (done ++ [a]) := by
  have ticks : ∀ d ∈ t.delivered, d.occasion = .tick → .move .tick ∈ done ++ [a] :=
    fun d member tick => List.mem_append_left _ (ht.ticks d member tick)
  cases h with
  | send source =>
    refine ⟨ht.limit_eq, ht.room, ht.fits, ticks, fun d member closed => ?_, ht.last⟩
    cases source.symm.trans (ht.closing d member closed).source
  | close =>
    refine ⟨ht.limit_eq, ht.room, ht.fits, ticks, fun d member closed => ?_, ht.last⟩
    obtain ⟨items, -, phase⟩ := ht.closing d member closed
    exact ⟨items, rfl, phase⟩
  | cancel | pass => exact ⟨ht.limit_eq, ht.room, ht.fits, ticks, ht.closing, ht.last⟩
  | @move m notices publisher change =>
    obtain ⟨fits, room⟩ := change.fits (ht.limit_eq ▸ ht.room)
    rw [ht.limit_eq] at fits room
    refine ⟨change.limit_eq.trans ht.limit_eq, room, ?_, ?_, ?_, ?_⟩
    · intro d member
      exact (List.mem_append.mp member).elim (ht.fits d) (fits d)
    · intro d member tick
      obtain member | member := List.mem_append.mp member
      · exact ticks d member tick
      · have occasion := Publisher.occasion_of_mem member
        rw [tick] at occasion
        cases m <;> cases occasion
        exact List.mem_append_right _ (.head _)
    · intro d member closed
      obtain member | member := List.mem_append.mp member
      · exact ((ht.closing d member closed).change change).1
      · exact change.closing member closed
    · intro d (member : d ∈ (t.delivered ++ publisher.delivered m).dropLast) closed
      -- A batch that is not the last one was handed over before, and not because of the end.
      obtain none | ⟨next, some⟩ := delivered_cases publisher m
      · rw [none, List.append_nil] at member
        exact ht.last d member closed
      · rw [some, List.dropLast_concat] at member
        cases some.symm.trans ((ht.closing d member closed).change change).2

/-- What has become of the batches. -/
structure Settled [Repository σ] (store : σ) (t : PublisherTask σ) : Prop where
  coherent : t.publisher.Coherent
  outcomes : t.outcomes.map Outcome.records ++ t.publisher.phase.inProgress =
    t.delivered.map Delivery.records
  saved : saveAll store (Notice.entries Notice.stored? t.notices) = .ok t.publisher.store
  gone : .publisherGone ∈ t.notices →
    t.publisher.phase = .gone ∧ t.publisher.queue.hasSource = false

/-- Every step settles what it settles. -/
theorem Settled.change [Repository σ] {store : σ} {t t' : PublisherTask σ} {a : Action}
    (ht : t.Settled store) (h : t.Change a t') : t'.Settled store := by
  have coherent := coherent_change ht.coherent h
  cases h with
  | send source =>
    refine ⟨coherent, ht.outcomes, ht.saved, fun told => ?_⟩
    cases source.symm.trans (ht.gone told).2
  | close => exact ⟨coherent, ht.outcomes, ht.saved, fun told => ⟨(ht.gone told).1, rfl⟩⟩
  | cancel | pass => exact ⟨coherent, ht.outcomes, ht.saved, ht.gone⟩
  | @move m notices publisher change =>
    refine ⟨coherent, ?_, ?_, fun told => ?_⟩
    · show (Notice.entries outcome? (notices.reverse ++ t.notices)).map Outcome.records ++
        publisher.phase.inProgress = (t.delivered ++ publisher.delivered m).map Delivery.records
      rw [Notice.entries_append, List.map_append, List.append_assoc, change.outcomes_eq,
        ← List.append_assoc, List.map_append]
      exact congrArg (· ++ _) ht.outcomes
    · show saveAll store (Notice.entries Notice.stored? (notices.reverse ++ t.notices)) =
        .ok publisher.store
      have before := ht.saved
      rw [saveAll] at before
      rw [Notice.entries_append, saveAll, List.foldlM_append, before]
      exact change.saveAll_eq
    · obtain told | told := List.mem_append.mp told
      · exact change.gone ht.coherent (List.mem_reverse.mp told)
      · exact absurd (ht.gone told).1 change.phase_ne_gone

/-- The publisher before another store, which leaves other notices. -/
def withStore {τ : Type} (store : τ) (notices : List Notice) (t : PublisherTask σ) :
    PublisherTask τ :=
  { t with publisher := t.publisher.withStore store, notices }

/-- Before another store, and whatever becomes of the writes, the same step is possible. -/
theorem Change.replay [Repository σ] {t t' : PublisherTask σ} {a : Action} (h : t.Change a t')
    {τ : Type} [Repository τ] (store : τ) (notices : List Notice) : ∃ store' notices',
      (t.withStore store notices).step a.blind = some (t'.withStore store' notices') := by
  cases h with
  | @send r source sink room =>
    have offered := (Queue.offer_eq_ok_iff r t.publisher.queue _).mpr ⟨sink, room, rfl⟩
    refine ⟨store, notices, ?_⟩
    simp only [step, Action.blind, withStore, Publisher.withStore, source, offered]
    rfl
  | close | cancel | pass => exact ⟨store, notices, rfl⟩
  | @move m _ publisher change =>
    obtain ⟨more, store', step⟩ := change.replay store
    refine ⟨store', more.reverse ++ notices, ?_⟩
    have received : (t.publisher.withStore store).received m.blind = t.publisher.received m := by
      cases m <;> rfl
    have delivered : (publisher.withStore store').delivered m.blind = publisher.delivered m := by
      rw [Publisher.delivered, m.occasion?_blind]
      rfl
    show ((t.publisher.withStore store).step t.now t.stop m.blind).map _ = _
    rw [step, withStore, moved, ← received, ← delivered]
    rfl

/-- Once no more records are sent, the publisher can go on until it is gone. -/
theorem exists_run_gone [Repository σ] {t : PublisherTask σ}
    (closed : t.publisher.queue.hasSource = false) :
    ∃ more g, t.run more = some g ∧ g.publisher.phase = .gone := by
  -- Each move that is more than a tick leaves a publisher that weighs less.
  induction weight : t.publisher.weight using Nat.strongRecOn generalizing t with
  | ind n ih =>
    by_cases gone : t.publisher.phase = .gone
    · exact ⟨[], t, rfl, gone⟩
    · obtain ⟨m, ⟨notices, publisher⟩, work, goes⟩ := Publisher.exists_work t.now t.stop closed gone
      have change := Publisher.Change.of_step goes
      have less := change.weight_le
      rw [if_pos work] at less
      have step : t.step (.move m) = some (t.moved m notices publisher) := by
        rw [PublisherTask.step, goes]
        rfl
      obtain ⟨more, g, run, ended⟩ := ih publisher.weight (by omega)
        (t := t.moved m notices publisher) (change.hasSource_eq.trans closed) rfl
      refine ⟨.move m :: more, g, ?_, ended⟩
      rw [PublisherTask.run, List.foldlM_cons, step]
      exact run

end PublisherTask
end ProxyMeter.Pipeline
