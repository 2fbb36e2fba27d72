import ProxyMeter.Proofs.Pipeline.Batches

/-!
# Batches

A publisher on its own, between whoever sends it records and its store. Whatever happens around it
and whatever becomes of its writes, the batches that it hands to the store one after the other, and
then the one that it gathers, are the records that it has received, in their order. A batch is full
unless a tick or the end of the records has cut it short.
-/

namespace ProxyMeter.Pipeline.PublisherTask

open Store Traffic
open Publisher (Delivery Move Outcome outcome?)

variable {σ : Type}

/-- A publisher that works does not go without saying so. -/
theorem told_of_run [Repository σ] {capacity batchSize interval : Nat} {store : σ}
    {t : PublisherTask σ} {actions : List Action}
    (works : Publisher.works batchSize interval = true)
    (run : (start capacity batchSize interval store).run actions = some t)
    (gone : t.publisher.phase = .gone) : .publisherGone ∈ t.notices := by
  refine run_of_change Change.of_step
    (P := fun _ t => t.publisher.phase = .gone → .publisherGone ∈ t.notices) ?_ ?_ run gone
  · simp [start, Publisher.start, works]
  · intro done a t t' before h gone
    cases h with
    | send | close | cancel | pass => exact before gone
    | move change => exact List.mem_append_left _ (List.mem_reverse.mpr (change.told gone))

/-- What is known of a publisher, whatever is sent to it and whatever becomes of its writes. The
counters wrap, and so do the numbers they are compared with. -/
structure Batched [Repository σ] (capacity batchSize interval : Nat) (store : σ)
    (actions : List Action) (t : PublisherTask σ) : Prop where
  fifo : t.received ++ t.publisher.queue.items = sent actions
  /-- The batches that were handed over, and then the one that is gathered, are the records that
  were received. -/
  inOrder : t.delivered.flatMap Delivery.records ++ t.publisher.batch = t.received
  /-- A batch is handed over as soon as it is full. -/
  begun : t.publisher.batch.length < max 1 batchSize
  sized : ∀ d ∈ t.delivered, d.records ≠ [] ∧ d.records.length ≤ max 1 batchSize
  /-- A batch is not full only if a tick or the end of the records has cut it short. -/
  short : ∀ d ∈ t.delivered, d.records.length < max 1 batchSize →
    d.occasion = .tick ∨ d.occasion = .closed
  ticks : ∀ d ∈ t.delivered, d.occasion = .tick → .move .tick ∈ actions
  /-- The end is seen when no record is left and none can come. -/
  closed : ∀ d ∈ t.delivered, d.occasion = .closed → t.publisher.queue.ended = true
  last : ∀ d ∈ t.delivered.dropLast, d.occasion ≠ .closed
  /-- Without ticks all batches but the last one are full. -/
  untimed : .move .tick ∉ actions → ∀ d ∈ t.delivered.dropLast, d.records.length = max 1 batchSize
  /-- The writes come to their ends in the order in which they begin. -/
  outcomes : t.outcomes.map Outcome.records ++ t.publisher.phase.inProgress =
    t.delivered.map Delivery.records
  published : t.metrics.counter .eventsPublished =
    .ofNat ((t.outcomes.filter Outcome.succeeded).map fun b => b.records.length).sum
  failures : t.metrics.counter .databaseErrors = .ofNat (t.outcomes.countP fun b => !b.succeeded)
  /-- The store has the batches whose writes succeeded, and nothing else. -/
  saved : saveAll store ((t.outcomes.filter Outcome.succeeded).map Outcome.records) =
    .ok t.publisher.store
  /-- Whatever store the writes go to, and whatever becomes of them, the same happens otherwise. -/
  replayed : ∀ {τ : Type} [Repository τ] (other : τ), ∃ store notices,
    (start capacity batchSize interval other).run (actions.map Action.blind) =
      some (t.withStore store notices)
  /-- When the publisher has gone, all records were received and handed over, and no write is
  left. -/
  gone : .publisherGone ∈ t.notices → t.publisher.queue.ended = true ∧
    t.received = sent actions ∧ t.delivered.flatMap Delivery.records = t.received ∧
    t.outcomes.map Outcome.records = t.delivered.map Delivery.records
  /-- Once no more records are sent, the publisher goes, if it can work at all. -/
  goes : Publisher.works batchSize interval = true → t.publisher.queue.hasSource = false →
    ∃ more g, t.run more = some g ∧ .publisherGone ∈ g.notices

theorem ordered_start (capacity batchSize interval : Nat) (store : σ) :
    (start capacity batchSize interval store).Ordered [] := by
  refine ⟨(State.publisher_start capacity batchSize interval store).1, ?_, rfl⟩
  simp only [start, Publisher.start]
  split <;> rfl

theorem sized_start (capacity batchSize interval : Nat) (store : σ) :
    (start capacity batchSize interval store).Sized (max 1 batchSize) [] :=
  ⟨rfl, (start capacity batchSize interval store).publisher.limit_pos, nofun, nofun, nofun, nofun⟩

theorem settled_start [Repository σ] (capacity batchSize interval : Nat) (store : σ) :
    (start capacity batchSize interval store).Settled store := by
  refine ⟨(State.publisher_start capacity batchSize interval store).1, ?_, rfl, nofun⟩
  simp only [start, Publisher.start]
  split <;> rfl

/-- Before another store, and whatever becomes of the writes, the same run is possible. -/
theorem run_replay [Repository σ] {capacity batchSize interval : Nat} {store : σ}
    {t : PublisherTask σ} {actions : List Action}
    (run : (start capacity batchSize interval store).run actions = some t) {τ : Type}
    [Repository τ] (other : τ) : ∃ store' notices,
      (start capacity batchSize interval other).run (actions.map Action.blind) =
        some (t.withStore store' notices) := by
  refine run_of_change Change.of_step (P := fun done t => ∃ store' notices,
    (start capacity batchSize interval other).run (done.map Action.blind) =
      some (t.withStore store' notices)) ⟨other, [], rfl⟩ ?_ run
  rintro done a t t' ⟨store', notices, before⟩ change
  obtain ⟨store'', notices', step⟩ := change.replay store' notices
  refine ⟨store'', notices', ?_⟩
  rw [PublisherTask.run] at before
  rw [PublisherTask.run, List.map_append, List.foldlM_append, before]
  simp [step]

/-- However records, ticks, a signal to stop and the ends of writes come, the publisher hands over
what it receives, batch by batch, and a write that fails takes its own batch with it and nothing
else. -/
theorem run_batched [Repository σ] {capacity batchSize interval : Nat} {store : σ}
    {t : PublisherTask σ} {actions : List Action}
    (run : (start capacity batchSize interval store).run actions = some t) :
    t.Batched capacity batchSize interval store actions := by
  have ordered : t.Ordered actions :=
    run_of_change Change.of_step (P := fun done t => t.Ordered done) (ordered_start _ _ _ _)
      (fun _ _ _ _ ht step => ht.change step) run
  have sized : t.Sized (max 1 batchSize) actions :=
    run_of_change Change.of_step (P := fun done t => t.Sized (max 1 batchSize) done)
      (sized_start _ _ _ _) (fun _ _ _ _ ht step => ht.change step) run
  have settled : t.Settled store :=
    run_of_change Change.of_step (P := fun _ t => t.Settled store) (settled_start _ _ _ _)
      (fun _ _ _ _ ht step => ht.change step) run
  have short (d : Delivery) (member : d ∈ t.delivered)
      (less : d.records.length < max 1 batchSize) : d.occasion = .tick ∨ d.occasion = .closed := by
    cases occasion : d.occasion with
    | full => exact absurd ((sized.fits d member).full occasion) less.ne
    | tick => exact .inl rfl
    | closed => exact .inr rfl
  exact {
    fifo := ordered.fifo
    inOrder := ordered.batches
    begun := sized.room
    sized := fun d member => ⟨(sized.fits d member).some, (sized.fits d member).within⟩
    short
    ticks := sized.ticks
    closed := fun d member closed =>
      have closing := sized.closing d member closed
      (Queue.ended_iff _).mpr ⟨closing.items, closing.source⟩
    last := sized.last
    untimed := by
      intro untimed d member
      have within := (sized.fits d (List.dropLast_subset _ member)).within
      by_contra partly
      obtain tick | closed := short d (List.dropLast_subset _ member) (by omega)
      · exact untimed (sized.ticks d (List.dropLast_subset _ member) tick)
      · exact sized.last d member closed
    outcomes := settled.outcomes
    published := by
      have sizes : (t.outcomes.filter Outcome.succeeded).map (fun b => b.records.length) =
          (Notice.entries Notice.stored? t.notices).map List.length := by
        rw [← Publisher.stored_outcomes, List.map_map]
        rfl
      rw [sizes]
      exact Notice.counter_eq_ofNat _ (Notice.sum_entries _ _ (fun n => by cases n <;> rfl) _)
    failures := by
      rw [outcomes, List.countP_eq_length_filter, ← List.length_map Outcome.records,
        Publisher.lost_outcomes]
      exact Notice.counter_eq_ofNat _ (Notice.length_entries _ (fun n => by cases n <;> rfl) _)
    saved := by
      rw [outcomes, Publisher.stored_outcomes]
      exact settled.saved
    replayed := run_replay run
    gone := by
      intro told
      obtain ⟨phase, source⟩ := settled.gone told
      obtain ⟨items, -, batch⟩ := settled.coherent.gone phase
      have fifo := ordered.fifo
      have batches := ordered.batches
      have outcomes := settled.outcomes
      have none : t.publisher.phase.inProgress = [] := by rw [phase]; rfl
      rw [items, List.append_nil] at fifo
      rw [batch, List.append_nil] at batches
      rw [none, List.append_nil] at outcomes
      exact ⟨(Queue.ended_iff _).mpr ⟨items, source⟩, fifo, batches, outcomes⟩
    goes := by
      intro works closed
      obtain ⟨more, g, rest, gone⟩ := exists_run_gone closed
      have whole : (start capacity batchSize interval store).run (actions ++ more) = some g := by
        rw [PublisherTask.run] at run
        rw [PublisherTask.run, List.foldlM_append, run]
        exact rest
      exact ⟨more, g, rest, told_of_run works whole gone⟩ }

private def toPort (port : UInt16) : Record where
  event :=
    { sourceIp := "10.0.0.7", destinationIp := "192.0.2.1", domain := "a.example", port
      timestamp := ⟨5, 0⟩, latencyMs := 3, bytesIn := 40, bytesOut := 2, transport := transportTcp }
  createdAt := ⟨6, 0⟩

private def fourSent : List Action :=
  [.send (toPort 1), .send (toPort 2), .send (toPort 3), .move .take, .move .take,
    .send (toPort 4), .move (.failed .writesOff 1), .move .take, .cancel, .pass 7, .move .tick,
    .move (.written 1), .move .heed, .close, .move .take, .move .finish, .pass 30000,
    .move (.expired 30000)]

/-- A full batch whose write fails, one that a tick cuts short and that is stored, and a last one
whose write is given up. -/
theorem run_batched_four_sent : ∃ t : PublisherTask Memory,
    (start 3 2 5 ({} : Memory)).run fourSent = some t ∧
      t.delivered = [⟨[toPort 1, toPort 2], .full⟩, ⟨[toPort 3], .tick⟩, ⟨[toPort 4], .closed⟩] ∧
      t.outcomes.map Outcome.succeeded = [false, true, false] ∧ .publisherGone ∈ t.notices ∧
      t.Batched 3 2 5 {} fourSent := by
  obtain ⟨t, run, delivered, outcomes, gone⟩ : ∃ t : PublisherTask Memory,
      (start 3 2 5 ({} : Memory)).run fourSent = some t ∧
        t.delivered = [⟨[toPort 1, toPort 2], .full⟩, ⟨[toPort 3], .tick⟩, ⟨[toPort 4], .closed⟩] ∧
        t.outcomes.map Outcome.succeeded = [false, true, false] ∧ .publisherGone ∈ t.notices :=
    ⟨_, rfl, rfl, rfl, .head _⟩
  exact ⟨t, run, delivered, outcomes, gone, run_batched run⟩

end ProxyMeter.Pipeline.PublisherTask
