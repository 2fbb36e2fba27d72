import ProxyMeter.Proofs.Pipeline.Writes
import ProxyMeter.Store.Memory

/-!
# Every event is accounted for

However the steps of the pipeline interleave, each call of the collector is an event taken or turned
away, each event taken is in one place, and the counters say how many are where. The store has the
batches that were stored and nothing else. When workers and publisher have gone no place holds
anything.
-/

namespace ProxyMeter.Pipeline

open Calendar Store Traffic

/-- The event with which the collector is called. -/
def Action.offer? : Action → Option Event
  | .collect e => some e
  | _ => none

/-- The events with which the collector is called. -/
def offered (actions : List Action) : List Event := actions.filterMap Action.offer?

/-- Writes batches to a store, one after the other. -/
def saveAll {σ : Type} [Repository σ] (store : σ) (batches : List (List Record)) :
    Except Fault σ :=
  batches.foldlM (fun store records => Repository.save records store) store

variable {σ : Type}

/-- A move of the publisher leaves in the store what it says was stored. -/
theorem Publisher.Change.saveAll_eq [Repository σ] {now : Nat} {stop : Bool} {p p' : Publisher σ}
    {move : Publisher.Move} {notices : List Notice} (h : p.Change now stop move notices p') :
    saveAll p.store (notices.filterMap Notice.stored?) = .ok p'.store := by
  have none (last : Bool) : (farewell last).filterMap Notice.stored? = [] := by cases last <;> rfl
  cases h with
  | stored took writing saved =>
    rw [List.filterMap_cons, Notice.stored?, none, store_afterWrite]
    simp [saveAll, saved]
  | refused | failed | expired =>
    rw [List.filterMap_cons_none rfl, none, store_afterWrite]
    rfl
  | _ => rfl

namespace State

/-- A step adds to what was taken and turned away the event with which the collector is called. -/
theorem Change.offered_eq [Repository σ] {s s' : State σ} {a : Action} (h : s.Change a s') :
    (s'.taken + s'.turned : Multiset Event) = s.taken + s.turned + offered [a] := by
  have step (notices : List Notice) (ledger : s'.notices = notices.reverse ++ s.notices)
      (entries : (notices.filterMap Notice.taken? : Multiset Event) +
        notices.filterMap Notice.turned? = offered [a]) :
      (s'.taken + s'.turned : Multiset Event) = s.taken + s.turned + offered [a] := by
    simp only [taken, turned, ledger, Notice.entries_append, ← Multiset.coe_add]
    rw [← entries]
    abel
  cases h with
  | take e => exact step [.collected e] rfl rfl
  | turnAway e => exact step [.turnedAway _ e] rfl rfl
  | heed => exact step [.workerDraining _] rfl rfl
  | leave => exact step [.workerGone _] (leave_notices _ _ _) rfl
  | normalise createdAt took => exact step [.normalised _ took] rfl rfl
  | drop => exact step [.dropped _ _] rfl rfl
  | @publisher move notices publisher change =>
    apply step notices rfl
    rw [change.filterMap_eq_nil Notice.upstream_taken,
      change.filterMap_eq_nil (by simp [Notice.Upstream, Notice.turned?])]
    rfl
  | _ => exact step [] rfl rfl

/-- A step leaves in the store what was there and what it says was stored. -/
theorem Change.saveAll_eq [Repository σ] {s s' : State σ} {a : Action} {store : σ}
    (h : s.Change a s') (before : saveAll store s.stored = .ok s.publisher.store) :
    saveAll store s'.stored = .ok s'.publisher.store := by
  have step (notices : List Notice) (ledger : s'.notices = notices.reverse ++ s.notices)
      (saved : saveAll s.publisher.store (notices.filterMap Notice.stored?) =
        .ok s'.publisher.store) :
      saveAll store s'.stored = .ok s'.publisher.store := by
    rw [State.stored, ledger, Notice.entries_append, saveAll, List.foldlM_append]
    rw [State.stored, saveAll] at before
    rw [before]
    exact saved
  cases h with
  | take e => exact step [.collected e] rfl rfl
  | turnAway e => exact step [.turnedAway _ e] rfl rfl
  | heed => exact step [.workerDraining _] rfl rfl
  | leave => exact step [.workerGone _] (leave_notices _ _ _) (by rw [leave_store]; rfl)
  | normalise createdAt took => exact step [.normalised _ took] rfl rfl
  | drop => exact step [.dropped _ _] rfl rfl
  | @publisher move notices publisher change => exact step notices rfl change.saveAll_eq
  | _ => exact step [] rfl rfl

/-- A queue that is made is empty, and both its ends are held. -/
theorem ofCapacity?_eq_some {α : Type} {capacity : Nat} {q : Queue α}
    (h : Queue.ofCapacity? capacity = some q) : q = { capacity } := by
  unfold Queue.ofCapacity? at h
  split at h
  · cases h
    rfl
  · cases h

/-- Workers that are made all wait for their turn. -/
theorem pool?_eq_some {count : Nat} {workers : List Worker}
    (h : Worker.pool? count = some workers) : workers = List.replicate count {} := by
  unfold Worker.pool? at h
  split at h
  · cases h
    rfl
  · cases h

/-- A pipeline that starts, as a value. -/
theorem start?_eq {settings : PipelineSettings} {store : σ} {s : State σ}
    (h : start? settings store = some s) :
    s = {
      input := { capacity := max 1 settings.inputCapacity.toNat }
      workers := List.replicate (max 1 settings.workers.toNat) {}
      publisher := .start { capacity := max 1 settings.outputCapacity.toNat }
        settings.batchSize.toNat settings.flushMillis.toNat store
      notices := ((List.range (max 1 settings.workers.toNat)).map .workerStarted).reverse ++
        [.started (max 1 settings.workers.toNat) settings.batchSize.toNat
          settings.flushMillis.toNat] } := by
  simp only [start?, Option.bind_eq_bind, Option.bind_eq_some_iff, Option.pure_def,
    Option.some.injEq] at h
  obtain ⟨input, began, queue, made, workers, manned, rfl⟩ := h
  rw [ofCapacity?_eq_some began, ofCapacity?_eq_some made, pool?_eq_some manned]

/-- A pipeline starts with a ledger that has no entry. -/
theorem entries_start {settings : PipelineSettings} {store : σ} {s : State σ}
    (h : start? settings store = some s) {α : Type} {kind : Notice → Option α}
    (started : ∀ workers size millis, kind (.started workers size millis) = none)
    (worker : ∀ n, kind (.workerStarted n) = none) : Notice.entries kind s.notices = [] := by
  rw [start?_eq h, Notice.entries_append]
  simp [Notice.entries, started, worker]

/-- A publisher that starts is coherent and has nothing. -/
theorem publisher_start (capacity batchSize interval : Nat) (store : σ) :
    (Publisher.start { capacity } batchSize interval store).Coherent ∧
      (Publisher.start { capacity } batchSize interval store).stock = 0 ∧
      (Publisher.start { capacity } batchSize interval store).queue.hasSource = true := by
  unfold Publisher.start
  by_cases works : Publisher.works batchSize interval = true
  · refine ⟨⟨?_, ?_, ?_⟩, ?_, ?_⟩ <;> simp [works, Publisher.stock, Publisher.Phase.records]
  · refine ⟨⟨?_, ?_, ?_⟩, ?_, ?_⟩ <;>
      simp [works, Publisher.stock, Publisher.Phase.records, Queue.abandon]

/-- A pipeline that starts is coherent. -/
theorem coherent_start {settings : PipelineSettings} {store : σ} {s : State σ}
    (h : start? settings store = some s) : s.Coherent := by
  obtain ⟨coherent, -, source⟩ := publisher_start (max 1 settings.outputCapacity.toNat)
    settings.batchSize.toNat settings.flushMillis.toNat store
  have here : (List.replicate (max 1 settings.workers.toNat) ({} : Worker)).all Worker.isGone =
      false := by
    rw [List.all_replicate, if_neg (by omega)]
    rfl
  rw [start?_eq h]
  refine ⟨?_, ?_, coherent⟩
  · rw [here]
    exact source
  · rw [here]
    exact nofun

/-- A pipeline that starts holds nothing, and its ledger is balanced. -/
theorem conserved_start {settings : PipelineSettings} {store : σ} {s : State σ}
    (h : start? settings store = some s) : s.Conserved := by
  have taken : s.taken = [] := entries_start h (fun _ _ _ => rfl) fun _ => rfl
  have normalised : s.normalised = [] := entries_start h (fun _ _ _ => rfl) fun _ => rfl
  have dropped : s.dropped = [] := entries_start h (fun _ _ _ => rfl) fun _ => rfl
  have stored : s.stored = [] := entries_start h (fun _ _ _ => rfl) fun _ => rfl
  have lost : s.lost = [] := entries_start h (fun _ _ _ => rfl) fun _ => rfl
  obtain ⟨-, stock, -⟩ := publisher_start (max 1 settings.outputCapacity.toNat)
    settings.batchSize.toNat settings.flushMillis.toNat store
  constructor
  · rw [taken, normalised, start?_eq h]
    simp [held, Worker.held, List.map_replicate, List.sum_replicate]
  · rw [normalised, dropped, stored, lost, start?_eq h, stock]
    simp [inHand, Worker.inHand, List.map_replicate, List.sum_replicate]

/-- A pipeline starts with its store as it was given. -/
theorem saveAll_start [Repository σ] {settings : PipelineSettings} {store : σ} {s : State σ}
    (h : start? settings store = some s) : saveAll store s.stored = .ok s.publisher.store := by
  rw [stored, entries_start h (fun _ _ _ => rfl) fun _ => rfl, start?_eq h]
  rfl

/-- In every run a pipeline is coherent. -/
theorem coherent_of_run [Repository σ] {settings : PipelineSettings} {store : σ} {s₀ s : State σ}
    {actions : List Action} (start : start? settings store = some s₀)
    (run : s₀.run actions = some s) : s.Coherent :=
  run_of_change Change.of_step (P := fun _ s => s.Coherent) (coherent_start start)
    (fun _ _ _ _ hc step => hc.change step) run

/-- Where every event is, and what the counters say about it. The counters wrap, and so do the
numbers they are compared with. -/
structure Accounted [Repository σ] (store : σ) (s₀ : State σ) (actions : List Action)
    (s : State σ) : Prop where
  /-- An event with which the collector is called is taken or turned away. -/
  calls : (offered actions : Multiset Event) = s.taken + s.turned
  /-- An event that is taken is in one place, and so is the record that is made of it. -/
  places : s.Conserved
  /-- No event is stored more often than the collector is called with it. -/
  once : (s.stored.flatten.map Record.event : Multiset Event) ≤ offered actions
  /-- The batches that were stored are those whose writes succeeded. -/
  stored : s.stored =
    ((s₀.endings actions).filter Publisher.Outcome.succeeded).map Publisher.Outcome.records
  /-- The batches that were lost are those whose writes failed or took too long. -/
  lost : s.lost =
    ((s₀.endings actions).filter (!·.succeeded)).map Publisher.Outcome.records
  /-- The store has the batches that were stored, in their order, and nothing else. -/
  saved : saveAll store s.stored = .ok s.publisher.store
  called : .ofNat (offered actions).length =
    s.metrics.counter .eventsCollected + s.metrics.dropped .collector
  collected : s.metrics.counter .eventsCollected =
    .ofNat (s.input.items.length + s.held.card) + s.metrics.counter .eventsProcessed
  processed : s.metrics.counter .eventsProcessed =
    .ofNat s.inHand.card + s.metrics.dropped .normalizer +
      .ofNat (s.publisher.queue.items.length + s.publisher.batch.length +
        s.publisher.phase.records.length) +
      s.metrics.counter .eventsPublished + .ofNat s.lost.flatten.length
  published : s.metrics.counter .eventsPublished = .ofNat s.stored.flatten.length
  failures : s.metrics.counter .databaseErrors =
    .ofNat ((s₀.endings actions).countP fun ending => !ending.succeeded)
  /-- When workers and publisher have gone, no place holds anything. -/
  rest : s.finished = true →
    s.input.items = [] ∧ s.held = 0 ∧ s.inHand = 0 ∧ s.publisher.stock = 0

private theorem sum_eq_zero {α : Type} {f : Worker → Multiset α} {workers : List Worker}
    (h : ∀ w, w.isGone = true → f w = 0) (gone : workers.all Worker.isGone = true) :
    (workers.map f).sum = 0 := by
  rw [List.all_eq_true] at gone
  rw [List.map_congr_left fun w member => h w (gone w member), List.map_const', List.sum_replicate,
    nsmul_zero]

/-- Workers that have gone hold no event. -/
theorem held_eq_zero {s : State σ} (gone : s.workers.all Worker.isGone = true) : s.held = 0 := by
  refine sum_eq_zero ?_ gone
  rintro ⟨phase, draining⟩ here
  cases phase <;> first | rfl | cases here

/-- Workers that have gone have no record in hand. -/
theorem inHand_eq_zero {s : State σ} (gone : s.workers.all Worker.isGone = true) :
    s.inHand = 0 := by
  refine sum_eq_zero ?_ gone
  rintro ⟨phase, draining⟩ here
  cases phase <;> first | rfl | cases here

/-- When workers and publisher have gone, no place holds anything. -/
theorem Coherent.rest {s : State σ} (hc : s.Coherent) (finished : s.finished = true) :
    s.input.items = [] ∧ s.held = 0 ∧ s.inHand = 0 ∧ s.publisher.stock = 0 := by
  rw [State.finished, Bool.and_eq_true] at finished
  obtain ⟨workers, publisher⟩ := finished
  have gone : s.publisher.phase = .gone := by
    split at publisher
    · assumption
    · cases publisher
  refine ⟨(hc.input workers).1, held_eq_zero workers, inHand_eq_zero workers, ?_⟩
  obtain ⟨items, -, batch⟩ := hc.publisher.gone gone
  rw [Publisher.stock, items, batch, gone]
  rfl

/-- A record that is stored was made of an event that was taken. -/
theorem Conserved.stored_le {s : State σ} (hc : s.Conserved) :
    (s.stored.flatten.map Record.event : Multiset Event) ≤ s.taken := by
  have records : (s.stored.flatten : Multiset Record) ≤ s.normalised := by
    rw [hc.records, add_right_comm]
    exact Multiset.le_add_left _ _
  rw [hc.events, ← Multiset.map_coe, ← Multiset.map_coe]
  exact (Multiset.map_le_map records).trans (Multiset.le_add_left _ _)

/-- In every run of a pipeline, from its start and whatever happens in which order, every event is
accounted for. -/
theorem run_accounted [Repository σ] {settings : PipelineSettings} {store : σ} {s₀ s : State σ}
    {actions : List Action} (start : start? settings store = some s₀)
    (run : s₀.run actions = some s) : Accounted store s₀ actions s := by
  have coherent := coherent_of_run start run
  have places : s.Conserved :=
    (run_of_change Change.of_step (P := fun _ s => s.Coherent ∧ s.Conserved)
      ⟨coherent_start start, conserved_start start⟩
      (fun _ _ _ _ hc step => ⟨hc.1.change step, hc.2.change hc.1 step⟩) run).2
  have calls : (s.taken + s.turned : Multiset Event) = offered actions := by
    refine run_of_change Change.of_step
      (P := fun done s => (s.taken + s.turned : Multiset Event) = offered done) ?_ ?_ run
    · rw [taken, turned, entries_start start (fun _ _ _ => rfl) fun _ => rfl,
        entries_start start (fun _ _ _ => rfl) fun _ => rfl]
      rfl
    · intro done a s s' before step
      rw [step.offered_eq, before, offered, offered, offered, List.filterMap_append,
        Multiset.coe_add]
  have saved : saveAll store s.stored = .ok s.publisher.store := by
    exact run_of_change Change.of_step
      (P := fun _ s => saveAll store s.stored = .ok s.publisher.store)
      (saveAll_start start) (fun _ _ _ _ before step => step.saveAll_eq before) run
  have endings : Notice.entries Publisher.outcome? s.notices = s₀.endings actions :=
    outcomes_of_run (entries_start start (fun _ _ _ => rfl) fun _ => rfl) run
  have lost : s.lost = ((s₀.endings actions).filter (!·.succeeded)).map Publisher.Outcome.records :=
    endings ▸ (Publisher.lost_outcomes s.notices).symm
  have counted := s.counted
  have counts := congrArg Multiset.card calls
  have events := congrArg Multiset.card places.events
  have records := congrArg Multiset.card places.records
  simp only [Multiset.card_add, Multiset.coe_card, List.length_map] at counts events
  simp only [Multiset.card_add, Multiset.coe_card, Publisher.stock] at records
  exact {
    calls := calls.symm
    places
    once := calls ▸ places.stored_le.trans (Multiset.le_add_right _ _)
    stored := endings ▸ (Publisher.stored_outcomes s.notices).symm
    lost
    saved
    called := by rw [← counts, UInt64.ofNat_add, counted.collected, counted.turned]
    collected := by
      rw [counted.collected, counted.processed, events, UInt64.ofNat_add]
    processed := by
      rw [counted.processed, counted.dropped, counted.published, records]
      simp only [← UInt64.ofNat_add]
      congr 1
      omega
    published := counted.published
    failures := by
      rw [counted.failures, lost, List.length_map, List.countP_eq_length_filter]
    rest := coherent.rest }

private def browsing (port : UInt16) : Event :=
  { sourceIp := "10.0.0.7", destinationIp := "192.0.2.1", domain := "a.example", port
    timestamp := ⟨5, 0⟩, latencyMs := 3, bytesIn := 40, bytesOut := 2, transport := transportTcp }

private def modest : PipelineSettings :=
  { workers := 1, inputCapacity := 1, outputCapacity := 1, batchSize := 1 }

/-- The way of an event from the collector to the publisher. -/
private def passing (port : UInt16) : List Action :=
  [.collect (browsing port), .listen 0, .receive 0, .normalise 0 ⟨6, 0⟩ 0, .hand 0,
    .publisher .take]

private def fourCalls : List Action :=
  passing 1 ++ [.publisher (.failed .writesOff 1)] ++ passing 2 ++
    [.pass 30000, .publisher (.expired 30000), .collect (browsing 3), .collect (browsing 4),
      .listen 0, .receive 0, .cancel, .close, .normalise 0 ⟨6, 0⟩ 0, .hand 0, .listen 0, .leave 0,
      .publisher .take, .publisher (.written 1), .publisher .finish]

/-- The write of one event fails, that of the next takes too long, the third is stored and the
fourth is turned away before everything comes to its end. -/
theorem run_accounted_four_calls :
    ∃ s₀ s : State Memory, start? modest {} = some s₀ ∧ s₀.run fourCalls = some s ∧
      s.finished = true ∧ s.lost = [[⟨browsing 1, ⟨6, 0⟩⟩], [⟨browsing 2, ⟨6, 0⟩⟩]] ∧
      s.stored = [[⟨browsing 3, ⟨6, 0⟩⟩]] ∧ s.turned = [browsing 4] ∧
      Accounted {} s₀ fourCalls s := by
  have ran : ∃ s₀ s : State Memory, start? modest {} = some s₀ ∧ s₀.run fourCalls = some s ∧
      s.finished = true ∧ s.lost = [[⟨browsing 1, ⟨6, 0⟩⟩], [⟨browsing 2, ⟨6, 0⟩⟩]] ∧
      s.stored = [[⟨browsing 3, ⟨6, 0⟩⟩]] ∧ s.turned = [browsing 4] :=
    ⟨_, _, rfl, rfl, rfl, rfl, rfl, rfl⟩
  obtain ⟨s₀, s, start, run, finished, lost, stored, turned⟩ := ran
  exact ⟨s₀, s, start, run, finished, lost, stored, turned, run_accounted start run⟩

end State
end ProxyMeter.Pipeline
