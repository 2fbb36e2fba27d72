import ProxyMeter.Proofs.Pipeline.Normalizing

/-!
# The pool of workers

The workers on their own, between whoever calls the collector and whoever takes records from their
queue. However their steps interleave, and whenever the signal to stop is given, each event that was
taken is normalised by one of them, and its record is put into the queue or dropped. The queue comes
to its end when all workers have gone, and not before.
-/

namespace ProxyMeter.Pipeline.NormalizerPool

open Calendar Store Traffic

variable {σ : Type}

theorem sound_start {count : Nat} (manned : 0 < count) (input output : Nat) (store : σ) :
    (start count input output store).Sound count := by
  obtain ⟨coherent, -, source⟩ := State.publisher_start output 1 1 store
  have here : (List.replicate count ({} : Worker)).all Worker.isGone = false := by
    rw [List.all_replicate, if_neg (by omega)]
    rfl
  refine ⟨⟨source.trans (by rw [start, here]; rfl), fun gone => ?_, coherent⟩,
    List.length_replicate, ?_, rfl, nofun, ?_⟩
  · cases here.symm.trans gone
  · simp [start, State.taken, State.normalised, State.held, Notice.entries, Worker.held,
      List.map_replicate, List.sum_replicate]
  · simp [start, State.normalised, State.dropped, State.inHand, Notice.entries, Worker.inHand,
      List.map_replicate, List.sum_replicate]

theorem queued_start (count input output : Nat) (store : σ) :
    (start count input output store).Queued output [] :=
  ⟨rfl, Nat.zero_le _, fun _ => rfl, fun _ => rfl, fun _ => rfl, fun _ _ some => absurd rfl some⟩

theorem inOrder_start (input output : Nat) (store : σ) :
    (start 1 input output store).state.InOrder {} (start 1 input output store).put :=
  ⟨rfl, rfl, .refl _⟩

/-- Each event that was taken waits, is held, or has been normalised. -/
theorem Sound.taken_eq {count : Nat} {p : NormalizerPool σ} (hp : p.Sound count) :
    (p.state.taken : Multiset Event) =
      p.state.input.items + p.state.held + (p.made.map fun m => m.2.event : List Event) := by
  rw [hp.events, ← hp.made, List.map_map]
  rfl

/-- Each record that was made is in hand, was put into the queue, or was dropped. -/
theorem Sound.made_eq {count : Nat} {p : NormalizerPool σ} (hp : p.Sound count) :
    (p.made.map Prod.snd : Multiset Record) = p.state.inHand + p.put + p.state.dropped :=
  hp.made ▸ hp.records

/-- The queue has a source as long as there is a worker. -/
theorem Sound.closed_iff {count : Nat} {p : NormalizerPool σ} (hp : p.Sound count) :
    p.output.hasSource = false ↔ p.allGone = true := by
  show p.state.publisher.queue.hasSource = false ↔ _
  rw [hp.coherent.source, Bool.not_eq_false']
  rfl

/-- The counters of records that were made and dropped. -/
theorem Sound.processed {count : Nat} {p : NormalizerPool σ} (hp : p.Sound count) :
    p.state.metrics.counter .eventsProcessed =
      .ofNat p.state.inHand.card + .ofNat p.put.length + p.state.metrics.dropped .normalizer := by
  have counted := p.state.counted
  have records := congrArg Multiset.card hp.records
  simp only [Multiset.card_add, Multiset.coe_card] at records
  rw [counted.processed, counted.dropped, records, UInt64.ofNat_add, UInt64.ofNat_add]

/-- When all workers have gone, every event that was taken has been normalised. -/
theorem Sound.events_of_gone {count : Nat} {p : NormalizerPool σ} (hp : p.Sound count)
    (gone : p.allGone = true) :
    (p.made.map fun m => m.2.event : Multiset Event) = p.state.taken := by
  rw [hp.taken_eq, State.held_eq_zero gone, (hp.coherent.input gone).1]
  exact ((congrArg (· + _) (add_zero _)).trans (zero_add _)).symm

/-- What waits when all workers have gone and nobody has taken a record is what was put into the
queue: everything that was made, or as much as fits. -/
theorem Queued.length_waiting {count capacity : Nat} {done : List Action} {p : NormalizerPool σ}
    (hp : p.Queued capacity done) (sound : p.Sound count) (kept : .abandon ∉ done)
    (unread : .receive ∉ done) (gone : p.allGone = true) :
    p.output.items = p.put ∧ p.output.items.length = min p.state.taken.length capacity := by
  have fifo := hp.fifo kept
  rw [hp.unread unread, List.nil_append] at fifo
  have taken := congrArg Multiset.card (sound.events_of_gone gone)
  have records := congrArg Multiset.card sound.made_eq
  rw [State.inHand_eq_zero gone, zero_add] at records
  simp only [Multiset.card_add, Multiset.coe_card, List.length_map] at taken records
  refine ⟨fifo, ?_⟩
  have bounded := hp.bounded
  rw [← taken, records, ← fifo]
  by_cases none : p.state.dropped = []
  · rw [none, List.length_nil]
    omega
  · have full := hp.full kept unread none
    omega

/-- What is known of workers on their own, in whatever order they make their steps and whoever takes
their records. The counters wrap, and so do the numbers they are compared with. -/
structure Faithful [Repository σ] (count capacity : Nat) (actions : List Action)
    (p : NormalizerPool σ) : Prop where
  size : p.state.workers.length = count
  /-- The queue has lost its source when all workers have gone, and not before. -/
  closed : p.output.hasSource = false ↔ p.allGone = true
  /-- They go when the collector is closed and no event is left there. -/
  drained : p.allGone = true → p.state.input.items = [] ∧ p.state.input.hasSource = false
  kept : .abandon ∉ actions → p.received ++ p.output.items = p.put
  /-- Whoever has taken records up to the end has all but those that were dropped. -/
  complete : .abandon ∉ actions → p.output.ended = true →
    p.received = p.put ∧ (p.made.map Prod.snd : Multiset Record) = p.received + p.state.dropped
  /-- Each event that was taken waits, is held, or has been normalised by one worker. -/
  once : (p.state.taken : Multiset Event) =
    p.state.input.items + p.state.held + (p.made.map fun m => m.2.event : List Event)
  makers : ∀ m ∈ p.made, m.1 < count
  handed : (p.made.map Prod.snd : Multiset Record) = p.state.inHand + p.put + p.state.dropped
  processed : p.state.metrics.counter .eventsProcessed =
    .ofNat p.state.inHand.card + .ofNat p.put.length + p.state.metrics.dropped .normalizer
  /-- While no worker is about to hand a record over, what was processed was put or dropped. -/
  settled : p.state.inHand = 0 → p.state.metrics.counter .eventsProcessed =
    .ofNat p.put.length + p.state.metrics.dropped .normalizer
  /-- When all have gone, every event that was taken has been processed. -/
  gone : p.allGone = true →
    p.state.metrics.counter .eventsProcessed = .ofNat p.state.taken.length ∧
    p.state.metrics.counter .eventsProcessed =
      .ofNat p.put.length + p.state.metrics.dropped .normalizer ∧
    (p.made.map fun m => m.2.event : Multiset Event) = p.state.taken
  /-- If nobody has taken a record until all have gone, as many as fit can be taken then. -/
  unread : .abandon ∉ actions → .receive ∉ actions → p.allGone = true →
    ∃ p', p.run (List.replicate (min p.state.taken.length capacity) .receive) = some p' ∧
      p'.received = p.put ∧ p'.received.length = min p.state.taken.length capacity ∧
      p'.output.ended = true
  /-- Once the collector is closed, the workers can go on by themselves until all have gone. -/
  goes : p.state.input.hasSource = false →
    ∃ (more : List Pipeline.Action) (p' : NormalizerPool σ),
      p.run (more.map Action.within) = some p' ∧ p'.allGone = true
  /-- One worker alone keeps the order. -/
  inOrder : count = 1 → (p.put.map Record.event).Sublist p.state.taken

/-- However workers on their own make their steps, whoever takes their records, and whenever the
signal to stop is given, no event is lost and none is normalised twice. -/
theorem run_faithful [Repository σ] {count input output : Nat} {store : σ} {p : NormalizerPool σ}
    {actions : List Action} (manned : 0 < count)
    (run : (start count input output store).run actions = some p) :
    p.Faithful count output actions := by
  have sound : p.Sound count :=
    run_of_change Change.of_step (P := fun _ p => p.Sound count)
      (sound_start manned input output store) (fun _ _ _ _ hp step => hp.change step) run
  have queued : p.Queued output actions :=
    run_of_change Change.of_step (P := fun done p => p.Queued output done)
      (queued_start count input output store) (fun _ _ _ _ hp step => hp.change step) run
  have settled (none : p.state.inHand = 0) : p.state.metrics.counter .eventsProcessed =
      .ofNat p.put.length + p.state.metrics.dropped .normalizer := by
    rw [sound.processed, none]
    exact congrArg (· + _) (UInt64.zero_add _)
  exact {
    size := sound.size
    closed := sound.closed_iff
    drained := sound.coherent.input
    kept := queued.fifo
    complete := by
      intro kept ended
      obtain ⟨items, source⟩ := (Queue.ended_iff _).mp ended
      have fifo := queued.fifo kept
      rw [items, List.append_nil] at fifo
      refine ⟨fifo, ?_⟩
      rw [sound.made_eq, fifo, State.inHand_eq_zero (sound.closed_iff.mp source), zero_add]
    once := sound.taken_eq
    makers := sound.makers
    handed := sound.made_eq
    processed := sound.processed
    settled
    gone := by
      intro gone
      refine ⟨?_, settled (State.inHand_eq_zero gone), sound.events_of_gone gone⟩
      have sizes := congrArg Multiset.card (sound.events_of_gone gone)
      rw [Multiset.coe_card, Multiset.coe_card, List.length_map] at sizes
      rw [p.state.counted.processed, ← sound.made, List.length_map, sizes]
    unread := by
      intro kept unread gone
      obtain ⟨fifo, waiting⟩ := queued.length_waiting sound kept unread gone
      refine ⟨_, waiting ▸ run_receive rfl, ?_, ?_, ?_⟩
      · show p.received ++ p.output.items = p.put
        rw [queued.unread unread, List.nil_append, fifo]
      · show (p.received ++ p.output.items).length = _
        rw [queued.unread unread, List.nil_append, waiting]
      · exact (Queue.ended_iff _).mpr ⟨rfl, sound.closed_iff.mpr gone⟩
    goes := exists_run_allGone
    inOrder := by
      rintro rfl
      obtain ⟨w, ordered⟩ : ∃ w, p.state.InOrder w p.put :=
        run_of_change Change.of_step (P := fun _ p => ∃ w, p.state.InOrder w p.put)
          ⟨{}, inOrder_start input output store⟩
          (fun _ _ _ _ ⟨_, hp⟩ step => inOrder_change hp step) run
      rw [ordered.events, List.append_assoc]
      refine List.Sublist.trans ?_ (List.sublist_append_left _ _)
      exact ((List.sublist_append_left _ _).trans ordered.records).map Record.event }

private def eventTo (port : UInt16) : Event :=
  { sourceIp := "10.0.0.7", destinationIp := "192.0.2.1", domain := "a.example", port
    timestamp := ⟨5, 0⟩, latencyMs := 3, bytesIn := 40, bytesOut := 2, transport := transportTcp }

private def takenTurns : List Action :=
  [.collect (eventTo 1), .collect (eventTo 2), .listen 0, .receive 0, .listen 1, .cancel, .heed 1,
    .normalise 0 ⟨6, 0⟩ 0, .listen 1, .receive 1, .normalise 1 ⟨7, 0⟩ 0, .hand 1, .hand 0, .close,
    .listen 0, .leave 0, .listen 1, .leave 1].map Action.within

/-- Two workers, one of which sees the signal to stop while it waits for an event. The queue has
room for one of the two records. -/
theorem run_faithful_taken_turns : ∃ p : NormalizerPool Memory, 0 < 2 ∧
    (start 2 2 1 ({} : Memory)).run takenTurns = some p ∧
      p.made = [(0, ⟨eventTo 1, ⟨6, 0⟩⟩), (1, ⟨eventTo 2, ⟨7, 0⟩⟩)] ∧
      p.put = [⟨eventTo 2, ⟨7, 0⟩⟩] ∧ p.state.dropped = [⟨eventTo 1, ⟨6, 0⟩⟩] ∧
      p.allGone = true ∧ p.Faithful 2 1 takenTurns := by
  have two : 0 < 2 := by decide
  obtain ⟨p, run, made, put, dropped, gone⟩ : ∃ p : NormalizerPool Memory,
      (start 2 2 1 ({} : Memory)).run takenTurns = some p ∧
        p.made = [(0, ⟨eventTo 1, ⟨6, 0⟩⟩), (1, ⟨eventTo 2, ⟨7, 0⟩⟩)] ∧
        p.put = [⟨eventTo 2, ⟨7, 0⟩⟩] ∧ p.state.dropped = [⟨eventTo 1, ⟨6, 0⟩⟩] ∧
        p.allGone = true :=
    ⟨_, rfl, rfl, rfl, rfl, rfl⟩
  exact ⟨p, two, run, made, put, dropped, gone, run_faithful two run⟩

end ProxyMeter.Pipeline.NormalizerPool
