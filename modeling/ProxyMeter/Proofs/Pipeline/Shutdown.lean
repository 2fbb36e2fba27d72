import ProxyMeter.Pipeline.NormalizerPool
import ProxyMeter.Proofs.Pipeline.Accounting

/-!
# The pipeline comes to its end

Once the collector is closed, a pipeline that has not finished can always go on, and it cannot go on
for ever: each step of a worker or of the publisher makes `State.weight` smaller, and nothing makes
it greater. Both together say that it finishes, whoever still calls the collector. The passing of
time and the ticks of the publisher's clock are not work; a write in progress is, for it comes to
its end, fails, or is given up.
-/

namespace ProxyMeter.Pipeline

open Calendar Store Traffic

/-- Whether a move of the publisher is more than a tick of its clock. -/
def Publisher.Move.isWork : Publisher.Move → Bool
  | .tick => false
  | _ => true

/-- Whether an action is a step of a worker or of the publisher, ticks of its clock apart. -/
def Action.isWork : Action → Bool
  | .collect _ | .close | .cancel | .pass _ => false
  | .publisher move => move.isWork
  | _ => true

/-- What a worker has before it in a phase: steps of its own, and of the publisher. -/
def Worker.Phase.weight : Worker.Phase → Nat
  | .waiting => 2
  | .listening => 1
  | .holding _ => 10
  | .handing _ => 9
  | .gone => 0

/-- What a worker has before it. -/
def Worker.weight (w : Worker) : Nat := (if w.draining then 0 else 2) + w.phase.weight

/-- What the publisher has before it in a phase, beside the records that it has. -/
def Publisher.Phase.weight : Publisher.Phase → Nat
  | .gathering => 2
  | .writing _ _ last => if last then 1 else 6
  | .gone => 0

variable {σ : Type}

/-- What the publisher has before it. -/
def Publisher.weight (p : Publisher σ) : Nat :=
  6 * p.queue.items.length + 5 * p.batch.length + ((if p.draining then 0 else 1) + p.phase.weight)

/-- After a write the publisher has less before it. -/
theorem Publisher.weight_afterWrite {p : Publisher σ} {records : List Record} {since : Nat}
    {last : Bool} (writing : p.phase = .writing records since last) :
    (p.afterWrite last).weight < p.weight := by
  cases last with
  | false => simp [Publisher.weight, Phase.weight, afterWrite, writing]
  | true =>
    simp [Publisher.weight, Phase.weight, afterWrite, writing, Queue.abandon]
    omega

/-- Each move of the publisher leaves it less to do, or nothing more if it is a tick. -/
theorem Publisher.Change.weight_le [Repository σ] {now : Nat} {stop : Bool} {p p' : Publisher σ}
    {move : Publisher.Move} {notices : List Notice} (h : p.Change now stop move notices p') :
    p'.weight + (if move.isWork then 1 else 0) ≤ p.weight := by
  cases h with
  | take gathering next =>
    simp [Publisher.weight, Phase.weight, Move.isWork, gathering, next]
    omega
  | fill gathering next =>
    simp [Publisher.weight, Phase.weight, Move.isWork, gathering, next]
    omega
  | idle => simp [Publisher.weight, Move.isWork]
  | due gathering _ begun =>
    have some := List.length_pos_iff.mpr begun
    simp [Publisher.weight, Phase.weight, Move.isWork, gathering]
    omega
  | heed gathering _ first => simp [Publisher.weight, Phase.weight, Move.isWork, gathering, first]
  | part gathering ended empty =>
    simp [Publisher.weight, Phase.weight, Move.isWork, gathering, empty, afterWrite, Queue.abandon]
    omega
  | finish gathering ended begun =>
    have some := List.length_pos_iff.mpr begun
    simp [Publisher.weight, Phase.weight, Move.isWork, gathering]
    omega
  | @stored records since last store took writing =>
    exact weight_afterWrite (p := { p with store }) writing
  | refused took writing => exact weight_afterWrite writing
  | failed fault took writing => exact weight_afterWrite writing
  | expired took writing => exact weight_afterWrite writing

/-- A publisher whose queue has no source can go on until it is gone. -/
theorem Publisher.exists_work [Repository σ] (now : Nat) (stop : Bool) {p : Publisher σ}
    (source : p.queue.hasSource = false) (here : p.phase ≠ .gone) :
    ∃ move after, move.isWork = true ∧ p.step now stop move = some after := by
  cases phase : p.phase with
  | gathering =>
    cases items : p.queue.items with
    | nil =>
      have ended : p.queue.ended = true := (Queue.ended_iff _).mpr ⟨items, source⟩
      cases empty : p.batch.isEmpty with
      | true => exact ⟨.finish, _, rfl, by simp only [step, phase, ended, empty]; rfl⟩
      | false => exact ⟨.finish, _, rfl, by simp only [step, phase, ended, empty]; rfl⟩
    | cons r rest => exact ⟨.take, _, rfl, by simp only [step, phase, Queue.take?, items]; rfl⟩
  | writing records since last =>
    cases saved : Repository.save records p.store with
    | ok store => exact ⟨.written 0, _, rfl, by simp only [step, phase, saved]; rfl⟩
    | error fault => exact ⟨.written 0, _, rfl, by simp only [step, phase, saved]; rfl⟩
  | gone => exact absurd phase here

namespace State

/-- The weight of a pipeline is that of its parts. -/
theorem weight_eq (s : State σ) : s.weight =
    10 * s.input.items.length + (s.workers.map Worker.weight).sum + s.publisher.weight := by
  have workers : s.workers.foldr (fun w n => w.weight + n) 0 =
      (s.workers.map Worker.weight).sum := by
    rw [List.sum_eq_foldr, List.foldr_map]
  have parts : s.weight = 10 * s.input.items.length +
      s.workers.foldr (fun w n => w.weight + n) 0 + 6 * s.publisher.queue.items.length +
      5 * s.publisher.batch.length +
      ((if s.publisher.draining then 0 else 1) + s.publisher.phase.weight) := rfl
  rw [parts, workers, Publisher.weight]
  omega

/-- A worker changes, and with it collector and publisher: the weight is less if theirs is. -/
theorem weight_lt_of_set {s s' : State σ} {n : Nat} {w w' : Worker} (h : s.workers[n]? = some w)
    (workers : s'.workers = s.workers.set n w')
    (less : 10 * s'.input.items.length + w'.weight + s'.publisher.weight <
      10 * s.input.items.length + w.weight + s.publisher.weight) : s'.weight < s.weight := by
  have sum := sum_map_set Worker.weight h w'
  rw [weight_eq, weight_eq, workers]
  omega

/-- A worker that leaves has nothing before it any more. -/
theorem weight_leave_lt {s : State σ} {n : Nat} {draining : Bool}
    (listening : s.workers[n]? = some ⟨.listening, draining⟩) (ended : s.input.ended = true) :
    (s.leave n ⟨.listening, draining⟩).weight < s.weight := by
  obtain ⟨items, -⟩ := (Queue.ended_iff _).mp ended
  unfold State.leave
  dsimp only
  split
  · refine weight_lt_of_set listening rfl ?_
    simp [items, Worker.weight, Worker.Phase.weight, Publisher.weight, Queue.abandon, Queue.close,
      noting, setWorker]
  · refine weight_lt_of_set listening rfl ?_
    simp [items, Worker.weight, Worker.Phase.weight, noting, setWorker]

/-- A step does not open a collector that is closed. -/
theorem Change.hasSource_eq_false [Repository σ] {s s' : State σ} {a : Action}
    (closed : s.input.hasSource = false) (h : s.Change a s') : s'.input.hasSource = false := by
  cases h with
  | close => rfl
  | leave =>
    unfold State.leave
    dsimp only
    split <;> exact closed
  | _ => exact closed

/-- Each step of a pipeline whose collector is closed leaves it less to do if it is work, and
nothing more if it is not. -/
theorem Change.weight_le [Repository σ] {s s' : State σ} {a : Action}
    (closed : s.input.hasSource = false) (h : s.Change a s') :
    s'.weight + (if a.isWork then 1 else 0) ≤ s.weight := by
  cases h with
  | take e source => exact absurd (closed.symm.trans source) nofun
  | turnAway | close | cancel | pass => exact Nat.le_refl _
  | listen waiting =>
    refine weight_lt_of_set waiting rfl ?_
    simp [Worker.weight, Worker.Phase.weight, setWorker]
  | receive listening next =>
    refine weight_lt_of_set listening rfl ?_
    simp [Worker.weight, Worker.Phase.weight, setWorker, next]
    omega
  | heed listening =>
    refine weight_lt_of_set listening rfl ?_
    simp [Worker.weight, Worker.Phase.weight, setWorker, noting]
  | leave listening ended => exact weight_leave_lt listening ended
  | normalise createdAt took holding =>
    refine weight_lt_of_set holding rfl ?_
    simp [Worker.weight, Worker.Phase.weight, setWorker, noting]
  | hand handing =>
    refine weight_lt_of_set handing rfl ?_
    simp [Worker.weight, Worker.Phase.weight, Publisher.weight, setWorker]
    omega
  | drop handing =>
    refine weight_lt_of_set handing rfl ?_
    simp [Worker.weight, Worker.Phase.weight, setWorker, noting]
  | @publisher move notices publisher change =>
    have less : publisher.weight + (if move.isWork then 1 else 0) ≤ s.publisher.weight :=
      change.weight_le
    rw [weight_eq, weight_eq]
    show 10 * s.input.items.length + (s.workers.map Worker.weight).sum + publisher.weight +
      (if move.isWork then 1 else 0) ≤ _
    omega

theorem finished_iff {s : State σ} :
    s.finished = true ↔ s.workers.all Worker.isGone = true ∧ s.publisher.phase = .gone := by
  rw [finished, Bool.and_eq_true]
  cases s.publisher.phase <;> simp

/-- The worker at a closed collector takes what is left there, or goes. -/
theorem exists_work_of_listening [Repository σ] {s : State σ} {n : Nat} {draining : Bool}
    (closed : s.input.hasSource = false)
    (listening : s.workers[n]? = some ⟨.listening, draining⟩) :
    ∃ a s', a.isWork = true ∧ a.isUpstream = true ∧ s.step a = some s' := by
  cases items : s.input.items with
  | nil =>
    have ended : s.input.ended = true := (Queue.ended_iff _).mpr ⟨items, closed⟩
    exact ⟨.leave n, _, rfl, rfl, by simp only [step, listening, ended]; rfl⟩
  | cons e rest =>
    exact ⟨.receive n, _, rfl, rfl, by simp only [step, listening, Queue.take?, items]; rfl⟩

/-- While a worker has not gone, it can go on, or the worker whose turn it waits for can. -/
theorem exists_work_of_worker [Repository σ] {s : State σ} {n : Nat} {w : Worker}
    (closed : s.input.hasSource = false) (h : s.workers[n]? = some w) (here : w.isGone = false) :
    ∃ a s', a.isWork = true ∧ a.isUpstream = true ∧ s.step a = some s' := by
  obtain ⟨phase, draining⟩ := w
  cases phase with
  | waiting =>
    -- Either it is this worker's turn, or another one is at the input.
    cases free : s.inputFree with
    | true => exact ⟨.listen n, _, rfl, rfl, by simp only [step, h, free]; rfl⟩
    | false =>
      simp only [inputFree, Bool.not_eq_false', List.any_eq_true] at free
      obtain ⟨⟨phase, draining⟩, member, listening⟩ := free
      obtain ⟨m, found⟩ := List.getElem?_of_mem member
      cases phase with
      | listening => exact exists_work_of_listening closed found
      | _ => cases listening
  | listening => exact exists_work_of_listening closed h
  | holding e => exact ⟨.normalise n ⟨0, 0⟩ 0, _, rfl, rfl, by simp only [step, h]; rfl⟩
  | handing r => exact ⟨.hand n, _, rfl, rfl, by simp only [step, h]; rfl⟩
  | gone => cases here

/-- A pipeline whose collector is closed is not stuck before it has finished. -/
theorem exists_work [Repository σ] {s : State σ} (hc : s.Coherent)
    (closed : s.input.hasSource = false) (unfinished : s.finished = false) :
    ∃ a s', a.isWork = true ∧ s.step a = some s' := by
  cases gone : s.workers.all Worker.isGone with
  | true =>
    have source : s.publisher.queue.hasSource = false := by rw [hc.source, gone]; rfl
    have here : s.publisher.phase ≠ .gone := fun gone' =>
      Bool.eq_false_iff.mp unfinished (finished_iff.mpr ⟨gone, gone'⟩)
    obtain ⟨move, after, work, goes⟩ := Publisher.exists_work s.now s.stop source here
    exact ⟨.publisher move, _, work, by rw [step, goes]; rfl⟩
  | false =>
    obtain ⟨w, member, here⟩ := List.all_eq_false.mp gone
    obtain ⟨n, found⟩ := List.getElem?_of_mem member
    obtain ⟨a, s', work, -, goes⟩ :=
      exists_work_of_worker closed found (Bool.eq_false_iff.mpr here)
    exact ⟨a, s', work, goes⟩

/-- When workers and publisher have gone, they do nothing more. -/
theorem Change.finished_eq_false [Repository σ] {s s' : State σ} {a : Action} (h : s.Change a s')
    (work : a.isWork = true) : s.finished = false := by
  have worker {n : Nat} {w : Worker} (found : s.workers[n]? = some w) (here : w.isGone = false) :
      s.finished = false := by
    rw [finished, not_all_isGone found here]
    rfl
  cases h with
  | take | turnAway | close | cancel | pass => cases work
  | listen found | receive found | heed found | leave found | hand found | drop found =>
    exact worker found rfl
  | normalise _ _ found => exact worker found rfl
  | publisher change =>
    exact Bool.eq_false_iff.mpr fun finished => change.phase_ne_gone (finished_iff.mp finished).2

/-- A pipeline that was closed stays closed. -/
theorem hasSource_eq_false_of_run [Repository σ] {s₀ s : State σ} {actions : List Action}
    (run : s₀.run actions = some s) (closed : .close ∈ actions) : s.input.hasSource = false := by
  refine run_of_change Change.of_step
    (P := fun done s => .close ∈ done → s.input.hasSource = false) nofun ?_ run
    closed
  intro done a s s' before change closed
  obtain closed | closed := List.mem_append.mp closed
  · exact change.hasSource_eq_false (before closed)
  · obtain rfl := List.mem_singleton.mp closed
    cases change
    rfl

/-- However a pipeline with a closed collector goes on, it does no more work than its weight
says. -/
theorem weight_le_of_run [Repository σ] {s s' : State σ} {more : List Action}
    (closed : s.input.hasSource = false) (run : s.run more = some s') :
    s'.weight + more.countP Action.isWork ≤ s.weight := by
  have kept : s'.input.hasSource = false ∧ s'.weight + more.countP Action.isWork ≤ s.weight := by
    refine run_of_change Change.of_step (P := fun done s' => s'.input.hasSource = false ∧
      s'.weight + done.countP Action.isWork ≤ s.weight) ⟨closed, Nat.le_refl _⟩ ?_ run
    rintro done a s₁ s₂ ⟨closed, spent⟩ change
    have less := change.weight_le closed
    refine ⟨change.hasSource_eq_false closed, ?_⟩
    rw [List.countP_append, List.countP_singleton]
    omega
  exact kept.2

/-- A pipeline with a closed collector can be worked to its end. -/
theorem exists_run_finished [Repository σ] {s : State σ} (hc : s.Coherent)
    (closed : s.input.hasSource = false) : ∃ more s', more.all Action.isWork = true ∧
      s.run more = some s' ∧ s'.finished = true := by
  -- A step of work is possible until the end, and what is left after it weighs less.
  induction weight : s.weight using Nat.strongRecOn generalizing s with
  | ind n ih =>
    cases finished : s.finished with
    | true => exact ⟨[], s, rfl, rfl, finished⟩
    | false =>
      obtain ⟨a, s₁, work, step⟩ := exists_work hc closed finished
      have change := Change.of_step step
      have less := change.weight_le closed
      rw [if_pos work] at less
      obtain ⟨more, s', allWork, run, ended⟩ :=
        ih s₁.weight (by omega) (hc.change change) (change.hasSource_eq_false closed) rfl
      refine ⟨a :: more, s', by simp [work, allWork], ?_, ended⟩
      rw [State.run, List.foldlM_cons, step]
      exact run

/-- What is known of a pipeline that is shut down and has not hung. -/
structure ComesToRest [Repository σ] (s : State σ) : Prop where
  /-- Until workers and publisher have gone, one of them can go on. -/
  goesOn : s.finished = false ↔ ∃ a s', a.isWork = true ∧ s.step a = some s'
  /-- Whatever one of them does leaves less to do, and nothing else leaves more. -/
  nearer : ∀ a s', s.step a = some s' →
    s'.weight ≤ s.weight ∧ (a.isWork = true → s'.weight < s.weight)
  /-- So much work is done at most, however the pipeline goes on. -/
  bounded : ∀ more s', s.run more = some s' → s'.weight + more.countP Action.isWork ≤ s.weight
  /-- Work alone comes to the end. -/
  ends : ∃ more s', more.all Action.isWork = true ∧ s.run more = some s' ∧ s'.finished = true
  /-- A write need not be waited for longer than its limit. -/
  overdue : ∀ records since last took, s.publisher.phase = .writing records since last →
    since + Publisher.writeLimit ≤ s.now → ∃ s', s.step (.publisher (.expired took)) = some s'
  /-- Who calls the collector is turned away, and only the counter for this changes. -/
  turnsAway : ∀ e, s.step (.collect e) = some (s.noting [.turnedAway .closed e]) ∧
    (s.noting [.turnedAway .closed e]).metrics = s.metrics.recordDropped .collector

/-- A pipeline whose collector is closed comes to rest, from every state that it can be in and with
any calls of the collector still to come. -/
theorem run_comesToRest [Repository σ] {settings : PipelineSettings} {store : σ} {s₀ s : State σ}
    {actions : List Action} (start : start? settings store = some s₀)
    (run : s₀.run actions = some s) (closed : .close ∈ actions) : s.ComesToRest := by
  have hc := coherent_of_run start run
  have closed : s.input.hasSource = false := hasSource_eq_false_of_run run closed
  exact {
    goesOn := by
      constructor
      · intro unfinished
        exact exists_work hc closed unfinished
      · rintro ⟨a, s', work, step⟩
        exact (Change.of_step step).finished_eq_false work
    nearer := by
      intro a s' step
      have less := (Change.of_step step).weight_le closed
      refine ⟨by omega, fun work => ?_⟩
      rw [if_pos work] at less
      omega
    bounded := fun _ _ run => weight_le_of_run closed run
    ends := exists_run_finished hc closed
    overdue := by
      intro records since last took writing late
      exact ⟨_, by simp only [step, Publisher.step, writing, if_pos late]; rfl⟩
    turnsAway := by
      intro e
      refine ⟨?_, rfl⟩
      rw [step, State.collect, Collector.collect, closed]
      rfl }

private def lastCall : Event :=
  { sourceIp := "10.0.0.7", destinationIp := "192.0.2.1", domain := "a.example", port := 443
    timestamp := ⟨5, 0⟩, latencyMs := 3, bytesIn := 40, bytesOut := 2, transport := transportTcp }

private def twoWorkers : PipelineSettings :=
  { workers := 2, inputCapacity := 4, outputCapacity := 1, batchSize := 1 }

private def shutDown : List Action :=
  [.collect lastCall, .collect lastCall, .listen 1, .receive 1, .listen 0, .cancel, .close,
    .collect lastCall, .heed 0]

/-- One worker holds an event, the other has seen the signal and waits for its turn, and a second
event is left at the input. -/
theorem run_comesToRest_two_workers : ∃ s₀ s : State Memory, start? twoWorkers {} = some s₀ ∧
    s₀.run shutDown = some s ∧ .close ∈ shutDown ∧ s.finished = false ∧ s.weight = 27 ∧
      s.ComesToRest := by
  have ran : ∃ s₀ s : State Memory, start? twoWorkers {} = some s₀ ∧ s₀.run shutDown = some s ∧
      s.finished = false ∧ s.weight = 27 :=
    ⟨_, _, rfl, rfl, rfl, rfl⟩
  obtain ⟨s₀, s, start, run, unfinished, weight⟩ := ran
  have closed : .close ∈ shutDown := by simp [shutDown]
  exact ⟨s₀, s, start, run, closed, unfinished, weight, run_comesToRest start run closed⟩

end State
end ProxyMeter.Pipeline
