import ProxyMeter.Proofs.Pipeline.Shutdown
import ProxyMeter.Proofs.Settings.Validation

/-!
# Which valid settings give a pipeline that works

Valid settings have no zero where something must be made, but they have no upper bounds. Queues and
workers need room, and the pipeline does not start if there is none for them. The publisher needs
room for a batch; if there is none the pipeline starts without a publisher, and every record that a
worker hands over is dropped. Within these bounds the publisher serves as long as there is a worker.
-/

namespace ProxyMeter.Pipeline

open Store Traffic

/-- The record that was dropped because nobody takes from the queue of the publisher. -/
def Notice.abandoned? : Notice → Option Record
  | .dropped .abandoned r => some r
  | _ => none

/-- The publisher does not drop records because nobody takes them. -/
theorem Notice.upstream_abandoned : Upstream abandoned? := by simp [Upstream, abandoned?]

/-- There is room for the workers and the queues of a pipeline. -/
structure HasRoom (settings : PipelineSettings) : Prop where
  workers : settings.workers.toNat ≤ Worker.mostWorkers
  input : settings.inputCapacity.toNat ≤ Queue.widest
  queue : settings.outputCapacity.toNat ≤ Queue.widest

variable {σ : Type}

namespace Publisher

/-- A publisher can work if it is to tick and there is room for a batch. -/
theorem works_iff (batchSize interval : Nat) :
    works batchSize interval = true ↔ 0 < interval ∧ batchSize ≤ largestBatch := by
  have one : 1 ≤ largestBatch := by decide
  rw [works, Bool.and_eq_true, decide_eq_true_iff, decide_eq_true_iff, max_le_iff]
  tauto

/-- The publisher takes from its queue as long as records can come. -/
theorem Change.hasSink_eq [Repository σ] {now : Nat} {stop : Bool} {p p' : Publisher σ}
    {move : Publisher.Move} {notices : List Notice} (hc : p.Coherent)
    (source : p.queue.hasSource = true) (h : p.Change now stop move notices p') :
    p'.queue.hasSink = p.queue.hasSink := by
  -- A last write has no source, so that a write that is settled here was not the last.
  have settled {records : List Record} {since : Nat} {last : Bool} (p' : Publisher σ)
      (writing : p.phase = .writing records since last) (same : p'.queue = p.queue) :
      (p'.afterWrite last).queue.hasSink = p.queue.hasSink := by
    cases last with
    | false => exact congrArg Queue.hasSink same
    | true => cases source.symm.trans (hc.last writing).2
  cases h with
  | part gathering ended => cases source.symm.trans ((Queue.ended_iff _).mp ended).2
  | stored took writing => exact settled _ writing rfl
  | refused took writing => exact settled _ writing rfl
  | failed fault took writing => exact settled _ writing rfl
  | expired took writing => exact settled _ writing rfl
  | _ => rfl

/-- A write that is not the last can come to its end, and the publisher gathers again. -/
theorem exists_written [Repository σ] (now : Nat) (stop : Bool) {p : Publisher σ}
    {records : List Record} {since : Nat} (writing : p.phase = .writing records since false) :
    ∃ notices p', p.step now stop (.written 0) = some (notices, p') ∧ p'.phase = .gathering ∧
      p'.queue = p.queue := by
  cases saved : Repository.save records p.store with
  | ok store =>
    refine ⟨_, _, by simp only [step, writing, saved]; rfl, ?_, ?_⟩ <;> rfl
  | error fault =>
    refine ⟨_, _, by simp only [step, writing, saved]; rfl, ?_, ?_⟩ <;> rfl

end Publisher

namespace State

/-- The records that were dropped because nobody takes from the queue of the publisher. -/
def abandoned (s : State σ) : List Record := Notice.entries Notice.abandoned? s.notices

/-- A queue can be made if it has room for an item, and there is room for it. -/
theorem ofCapacity?_isSome_iff {α : Type} (capacity : Nat) :
    (Queue.ofCapacity? capacity : Option (Queue α)).isSome = true ↔
      0 < capacity ∧ capacity ≤ Queue.widest := by
  unfold Queue.ofCapacity?
  split <;> simp_all

/-- Workers can be made if there is room for so many. -/
theorem pool?_isSome_iff (count : Nat) :
    (Worker.pool? count).isSome = true ↔ count ≤ Worker.mostWorkers := by
  unfold Worker.pool?
  split <;> simp_all

/-- A pipeline starts exactly if there is room for it. -/
theorem start?_isSome_iff (settings : PipelineSettings) (store : σ) :
    (start? settings store).isSome = true ↔ HasRoom settings := by
  have one : 1 ≤ Queue.widest ∧ 1 ≤ Worker.mostWorkers := by decide
  have capacity (n : Nat) :
      (0 < max 1 n ∧ max 1 n ≤ Queue.widest) ↔ n ≤ Queue.widest := by omega
  have count (n : Nat) : max 1 n ≤ Worker.mostWorkers ↔ n ≤ Worker.mostWorkers := by omega
  have made : (start? settings store).isSome = true ↔
      (Queue.ofCapacity? (max 1 settings.inputCapacity.toNat) :
        Option (Queue Event)).isSome = true ∧
      (Queue.ofCapacity? (max 1 settings.outputCapacity.toNat) :
        Option (Queue Record)).isSome = true ∧
      (Worker.pool? (max 1 settings.workers.toNat)).isSome = true := by
    simp only [start?, Option.isSome_iff_exists, Option.bind_eq_bind, Option.bind_eq_some_iff,
      Option.pure_def, Option.some.injEq]
    grind
  rw [made, ofCapacity?_isSome_iff, ofCapacity?_isSome_iff, pool?_isSome_iff, capacity, capacity,
    count]
  constructor
  · rintro ⟨input, queue, workers⟩
    exact ⟨workers, input, queue⟩
  · intro room
    exact ⟨room.input, room.queue, room.workers⟩

/-- The phase in which the publisher of a pipeline starts. -/
theorem phase_start {settings : PipelineSettings} {store : σ} {s : State σ}
    (start : start? settings store = some s) (interval : settings.flushMillis ≠ 0) :
    s.publisher.phase =
      if settings.batchSize.toNat ≤ Publisher.largestBatch then .gathering else .gone := by
  have ticks : 0 < settings.flushMillis.toNat :=
    Nat.pos_of_ne_zero fun none => interval (UInt64.toNat_inj.mp none)
  have works : Publisher.works settings.batchSize.toNat settings.flushMillis.toNat = true ↔
      settings.batchSize.toNat ≤ Publisher.largestBatch := by
    rw [Publisher.works_iff]
    exact ⟨And.right, fun room => ⟨ticks, room⟩⟩
  rw [start?_eq start]
  simp only [Publisher.start, works]

/-- Nothing was dropped for want of a publisher, and none will be while there is a worker. -/
structure Served (s : State σ) : Prop where
  abandoned : s.abandoned = []
  sink : s.workers.all Worker.isGone = false → s.publisher.queue.hasSink = true

/-- A step with notices of its own leaves a pipeline served if none of them is about a record that
was dropped for want of a publisher. -/
theorem Served.of_notices {s s' : State σ} (hs : s.Served) (notices : List Notice)
    (ledger : s'.notices = notices.reverse ++ s.notices)
    (none : notices.filterMap Notice.abandoned? = [])
    (sink : s'.workers.all Worker.isGone = false → s'.publisher.queue.hasSink = true) :
    s'.Served := by
  refine ⟨?_, sink⟩
  have before := hs.abandoned
  rw [State.abandoned] at before
  rw [State.abandoned, ledger, Notice.entries_append, none, before]
  rfl

/-- Every step keeps a pipeline served. -/
theorem Served.change [Repository σ] {s s' : State σ} {a : Action} (hc : s.Coherent)
    (hs : s.Served) (h : s.Change a s') : s'.Served := by
  have sink {n : Nat} {w : Worker} (found : s.workers[n]? = some w) (here : w.isGone = false) :
      s.publisher.queue.hasSink = true := hs.sink (not_all_isGone found here)
  cases h with
  | take e => exact hs.of_notices [.collected e] rfl rfl hs.sink
  | turnAway e => exact hs.of_notices [.turnedAway _ e] rfl rfl hs.sink
  | close | cancel | pass => exact hs.of_notices [] rfl rfl hs.sink
  | listen waiting => exact hs.of_notices [] rfl rfl fun _ => sink waiting rfl
  | receive listening => exact hs.of_notices [] rfl rfl fun _ => sink listening rfl
  | heed listening =>
    exact hs.of_notices [.workerDraining _] rfl rfl fun _ => sink listening rfl
  | @leave n draining listening =>
    refine hs.of_notices [.workerGone n] (leave_notices _ _ _) rfl fun _ => ?_
    obtain ⟨hasSource, publisher⟩ := s.leave_publisher n ⟨.listening, draining⟩
    rw [publisher]
    exact sink listening rfl
  | normalise createdAt took holding =>
    exact hs.of_notices [.normalised _ took] rfl rfl fun _ => sink holding rfl
  | hand handing => exact hs.of_notices [] rfl rfl fun _ => sink handing rfl
  | @drop n draining r why handing refused =>
    cases why with
    | full => exact hs.of_notices [.dropped .full r] rfl rfl fun _ => sink handing rfl
    | abandoned =>
      -- The worker that hands the record over is here, and so is the publisher.
      have here := sink handing rfl
      rw [Queue.offer, if_pos here] at refused
      split at refused <;> cases refused
  | @publisher move notices publisher change =>
    refine hs.of_notices notices rfl (change.filterMap_eq_nil Notice.upstream_abandoned) ?_
    intro (here : s.workers.all Worker.isGone = false)
    have source : s.publisher.queue.hasSource = true := by rw [hc.source, here]; rfl
    exact (change.hasSink_eq hc.publisher source).trans (hs.sink here)

/-- The publisher is gone, and the store is as it was. -/
structure Deaf (store : σ) (s : State σ) : Prop where
  gone : s.publisher.phase = .gone
  store : s.publisher.store = store
  stored : s.stored = []
  lost : s.lost = []
  /-- Every record that was dropped was dropped for want of a publisher. -/
  dropped : s.dropped = s.abandoned

/-- A step that leaves the publisher as it is leaves a pipeline deaf if its notices say of the
publisher no more than which records were dropped for want of it. -/
theorem Deaf.of_notices {store : σ} {s s' : State σ} (hs : s.Deaf store) (notices : List Notice)
    (ledger : s'.notices = notices.reverse ++ s.notices)
    (stored : notices.filterMap Notice.stored? = [])
    (lost : notices.filterMap Notice.lost? = [])
    (dropped : notices.filterMap Notice.dropped? = notices.filterMap Notice.abandoned?)
    (phase : s'.publisher.phase = s.publisher.phase)
    (same : s'.publisher.store = s.publisher.store) : s'.Deaf store := by
  have entries {α : Type} (kind : Notice → Option α) : Notice.entries kind s'.notices =
      Notice.entries kind s.notices ++ notices.filterMap kind := by
    rw [ledger, Notice.entries_append]
  refine ⟨phase.trans hs.gone, same.trans hs.store, ?_, ?_, ?_⟩
  · rw [State.stored, entries, stored, List.append_nil]
    exact hs.stored
  · rw [State.lost, entries, lost, List.append_nil]
    exact hs.lost
  · rw [State.dropped, State.abandoned, entries, entries, dropped]
    exact congrArg (· ++ _) hs.dropped

/-- Every step keeps a pipeline deaf. -/
theorem Deaf.change [Repository σ] {store : σ} {s s' : State σ} {a : Action} (hc : s.Coherent)
    (hs : s.Deaf store) (h : s.Change a s') : s'.Deaf store := by
  have sink : s.publisher.queue.hasSink = false := (hc.publisher.gone hs.gone).2.1
  cases h with
  | take e => exact hs.of_notices [.collected e] rfl rfl rfl rfl rfl rfl
  | turnAway e => exact hs.of_notices [.turnedAway _ e] rfl rfl rfl rfl rfl rfl
  | heed => exact hs.of_notices [.workerDraining _] rfl rfl rfl rfl rfl rfl
  | @leave n draining =>
    obtain ⟨hasSource, publisher⟩ := s.leave_publisher n ⟨.listening, draining⟩
    exact hs.of_notices [.workerGone n] (leave_notices _ _ _) rfl rfl rfl (by rw [publisher])
      (leave_store _ _ _)
  | normalise createdAt took => exact hs.of_notices [.normalised _ took] rfl rfl rfl rfl rfl rfl
  | hand _ here => cases sink.symm.trans here
  | @drop n draining r why handing refused =>
    obtain rfl : why = .abandoned := by
      rw [Queue.offer, sink] at refused
      cases refused
      rfl
    exact hs.of_notices [.dropped .abandoned r] rfl rfl rfl rfl rfl rfl
  | publisher change => exact absurd hs.gone change.phase_ne_gone
  | _ => exact hs.of_notices [] rfl rfl rfl rfl rfl rfl

/-- The publisher can take the first record that waits, after the write in progress if there is
one. -/
theorem exists_run_take [Repository σ] {s : State σ} (hc : s.Coherent) {r : Record}
    {rest : List Record} (next : s.publisher.queue.items = r :: rest) :
    ∃ (moves : List Publisher.Move) (s' : State σ),
      s.run (moves.map .publisher) = some s' ∧ s'.publisher.queue.items = rest := by
  have take {s : State σ} (gathering : s.publisher.phase = .gathering)
      (next : s.publisher.queue.items = r :: rest) :
      ∃ s', s.step (.publisher .take) = some s' ∧ s'.publisher.queue.items = rest := by
    refine ⟨_, by simp only [step, Publisher.step, gathering, Queue.take?, next]; rfl, ?_⟩
    dsimp only [noting]
    split <;> rfl
  cases phase : s.publisher.phase with
  | gathering =>
    obtain ⟨s', taken, items⟩ := take phase next
    exact ⟨[.take], s', by simp [run, taken], items⟩
  | writing records since last =>
    cases last with
    | true => cases next.symm.trans (hc.publisher.last phase).1
    | false =>
      obtain ⟨notices, p, written, gathering, queue⟩ :=
        Publisher.exists_written s.now s.stop phase
      have settled : s.step (.publisher (.written 0)) =
          some ({ s with publisher := p }.noting notices) := by
        rw [step, written]
        rfl
      obtain ⟨s', taken, items⟩ :=
        take (s := { s with publisher := p }.noting notices) gathering
          (by rw [← next, ← queue]; rfl)
      exact ⟨[.written 0, .take], s', by simp [run, settled, taken], items⟩
  | gone => cases next.symm.trans (hc.publisher.gone phase).1

/-- What a run finds at the publisher of a pipeline that has one. -/
structure Serving [Repository σ] (s : State σ) : Prop where
  /-- No record was dropped for want of a publisher. -/
  abandoned : s.abandoned = []
  /-- As long as there is a worker, the publisher is there and takes from its queue. -/
  here : s.workers.all Worker.isGone = false →
    s.publisher.phase ≠ .gone ∧ s.publisher.queue.hasSink = true
  /-- The first record that waits can be taken, after the write in progress if there is one. -/
  takes : ∀ r rest, s.publisher.queue.items = r :: rest →
    ∃ (moves : List Publisher.Move) (s' : State σ),
      s.run (moves.map .publisher) = some s' ∧ s'.publisher.queue.items = rest

/-- What becomes of a pipeline with its settings and its store, if nothing in the settings is zero
that must not be. -/
structure Startup [Repository σ] (settings : PipelineSettings) (store : σ) : Prop where
  /-- It starts exactly if there is room for its workers and its queues. -/
  starts : (∃ s₀, start? settings store = some s₀) ↔ HasRoom settings
  /-- Its publisher gathers records from the start exactly if there is room for a batch. -/
  gathers : ∀ s₀, start? settings store = some s₀ →
    (s₀.publisher.phase = .gathering ↔ settings.batchSize.toNat ≤ Publisher.largestBatch)
  /-- If there is room for a batch, the publisher serves in every run. -/
  serves : settings.batchSize.toNat ≤ Publisher.largestBatch → ∀ s₀ actions s,
    start? settings store = some s₀ → s₀.run actions = some s → s.Serving
  /-- If there is none, what workers make is dropped in every run, and nothing is stored. -/
  drops : Publisher.largestBatch < settings.batchSize.toNat → ∀ s₀ actions s,
    start? settings store = some s₀ → s₀.run actions = some s →
      s.Deaf store ∧ (s.normalised : Multiset Record) = s.inHand + s.dropped

/-- In every run the publisher serves, if it gathers at the start. -/
theorem serving_of_run [Repository σ] {settings : PipelineSettings} {store : σ} {s₀ s : State σ}
    {actions : List Action} (start : start? settings store = some s₀)
    (gathering : s₀.publisher.phase = .gathering) (run : s₀.run actions = some s) : s.Serving := by
  have sink : s₀.publisher.queue.hasSink = true := by
    rw [start?_eq start] at gathering ⊢
    dsimp only [Publisher.start] at gathering ⊢
    split at gathering
    · next works => rw [if_pos works]
    · cases gathering
  have served : s.Coherent ∧ s.Served := by
    refine run_of_change Change.of_step (P := fun _ s => s.Coherent ∧ s.Served)
      ⟨coherent_start start, ?_⟩ (fun _ _ _ _ hs step => ⟨hs.1.change step, hs.2.change hs.1 step⟩)
      run
    exact ⟨entries_start start (fun _ _ _ => rfl) fun _ => rfl, fun _ => sink⟩
  obtain ⟨coherent, served⟩ := served
  refine ⟨served.abandoned, fun here => ⟨fun gone => ?_, served.sink here⟩,
    fun r rest next => exists_run_take coherent next⟩
  cases (served.sink here).symm.trans (coherent.publisher.gone gone).2.1

/-- In every run the pipeline is deaf, if the publisher is gone at the start. -/
theorem deaf_of_run [Repository σ] {settings : PipelineSettings} {store : σ} {s₀ s : State σ}
    {actions : List Action} (start : start? settings store = some s₀)
    (gone : s₀.publisher.phase = .gone) (run : s₀.run actions = some s) : s.Deaf store := by
  have none {α : Type} {kind : Notice → Option α}
      (started : ∀ workers size millis, kind (.started workers size millis) = none)
      (worker : ∀ n, kind (.workerStarted n) = none) : Notice.entries kind s₀.notices = [] :=
    entries_start start started worker
  have deaf : s₀.Deaf store := by
    refine ⟨gone, by rw [start?_eq start]; rfl, none (fun _ _ _ => rfl) fun _ => rfl,
      none (fun _ _ _ => rfl) fun _ => rfl, ?_⟩
    rw [dropped, abandoned, none (fun _ _ _ => rfl) fun _ => rfl,
      none (fun _ _ _ => rfl) fun _ => rfl]
  have kept : s.Coherent ∧ s.Deaf store :=
    run_of_change Change.of_step (P := fun _ s => s.Coherent ∧ s.Deaf store)
      ⟨coherent_start start, deaf⟩
      (fun _ _ _ _ hs step => ⟨hs.1.change step, hs.2.change hs.1 step⟩) run
  exact kept.2

/-- A pipeline with valid settings starts if there is room for its workers and queues, and its
publisher serves in every run if there is room for a batch, with any store and whatever happens in
which order. -/
theorem startup_of_valid [Repository σ] {settings : Settings} (valid : settings.fault? = none)
    (store : σ) : Startup settings.pipeline store := by
  have interval := ((Settings.fault?_eq_none_iff settings).mp valid).interval
  exact {
    starts := by rw [← start?_isSome_iff settings.pipeline store, Option.isSome_iff_exists]
    gathers := by
      intro s₀ start
      rw [phase_start start interval]
      split <;> simp_all
    serves := by
      intro room s₀ actions s start run
      exact serving_of_run start ((phase_start start interval).trans (if_pos room)) run
    drops := by
      intro tooMany s₀ actions s start run
      have deaf := deaf_of_run start
        ((phase_start start interval).trans (if_neg (Nat.not_le.mpr tooMany))) run
      have records := (run_accounted start run).places.records
      obtain ⟨items, -, batch⟩ := (coherent_of_run start run).publisher.gone deaf.gone
      refine ⟨deaf, ?_⟩
      rw [records, deaf.stored, deaf.lost, Publisher.stock, items, batch, deaf.gone]
      simp [Publisher.Phase.records] }

private def firstEvent : Event :=
  { sourceIp := "10.0.0.7", destinationIp := "192.0.2.1", domain := "a.example", port := 443
    timestamp := ⟨5, 0⟩, latencyMs := 3, bytesIn := 40, bytesOut := 2, transport := transportTcp }

private def handedOver : List Action :=
  [.collect firstEvent, .listen 0, .receive 0, .normalise 0 ⟨6, 0⟩ 0, .hand 0]

private def widest : Settings :=
  { pipeline := {
      workers := 1
      inputCapacity := 2305843009213693951
      outputCapacity := 2305843009213693951
      batchSize := 60680079189834051 } }

/-- The widest queues and the largest batch that there can be room for. -/
theorem startup_of_valid_widest : widest.fault? = none ∧ ∃ s₀ s : State Memory,
    start? widest.pipeline {} = some s₀ ∧ s₀.publisher.phase = .gathering ∧
      s₀.run handedOver = some s ∧ s.publisher.queue.items = [⟨firstEvent, ⟨6, 0⟩⟩] ∧ s.Serving :=
      by
  have valid : widest.fault? = none := by decide
  have startup : Startup widest.pipeline ({} : Memory) := startup_of_valid valid ({} : Memory)
  obtain ⟨s₀, s, start, run, items⟩ : ∃ s₀ s : State Memory, start? widest.pipeline {} = some s₀ ∧
      s₀.run handedOver = some s ∧ s.publisher.queue.items = [⟨firstEvent, ⟨6, 0⟩⟩] :=
    ⟨_, _, rfl, rfl, rfl⟩
  have room : widest.pipeline.batchSize.toNat ≤ Publisher.largestBatch := by decide
  exact ⟨valid, s₀, s, start, (startup.gathers s₀ start).mpr room, run, items,
    startup.serves room s₀ handedOver s start run⟩

private def tooWide : Settings :=
  { pipeline := { workers := 1, inputCapacity := 2305843009213693952 } }

private def tooLarge : Settings :=
  { pipeline := { workers := 1, batchSize := 60680079189834052 } }

/-- Two settings that are valid: with the first there is no pipeline, and with the second its
publisher is gone from the start, and the first record is dropped. -/
theorem valid_without_room : tooWide.fault? = none ∧
    start? tooWide.pipeline ({} : Memory) = none ∧ tooLarge.fault? = none ∧
      ∃ s₀ s : State Memory, start? tooLarge.pipeline {} = some s₀ ∧ s₀.publisher.phase = .gone ∧
        s₀.run handedOver = some s ∧ s.abandoned = [⟨firstEvent, ⟨6, 0⟩⟩] :=
  ⟨by decide, rfl, by decide, _, _, rfl, rfl, rfl, rfl⟩

end State
end ProxyMeter.Pipeline
