import ProxyMeter.Proofs.Pipeline.HandingOver
import ProxyMeter.Proofs.Pipeline.Shutdown

/-!
# Steps of the workers on their own

`NormalizerPool.step` as a relation with one constructor for each way in which a step can go, and
what every step keeps: each event in one place, and a queue that is full once a record was dropped.
-/

namespace ProxyMeter.Pipeline

open Calendar Store Traffic

variable {σ : Type}

namespace NormalizerPool

/-- A step of a pool: what must hold before it, and the pool after it. -/
inductive Change [Repository σ] (p : NormalizerPool σ) : Action → NormalizerPool σ → Prop
  | within {a : Pipeline.Action} {state : State σ} {new dropped : List Record}
      (upstream : a.isUpstream = true) (change : p.state.Change a state)
      (hand : p.state.HandsOver state new dropped) :
      Change p (.within a) { p with state, put := p.put ++ new, made := p.made ++ state.madeBy a }
  | receive {r : Record} {rest : List Record} (next : p.output.items = r :: rest) :
      Change p .receive
        { p with
          state := p.withOutput { p.output with items := rest }
          received := p.received ++ [r] }
  | abandon : Change p .abandon { p with state := p.withOutput p.output.abandon }

/-- Every possible step is one of these. -/
theorem Change.of_step [Repository σ] {p p' : NormalizerPool σ} {a : Action}
    (h : p.step a = some p') : p.Change a p' := by
  cases a with
  | within a =>
    simp only [step] at h
    split at h
    · next upstream =>
      obtain ⟨state, step, rfl⟩ := Option.map_eq_some_iff.mp h
      have change := State.Change.of_step step
      obtain ⟨new, dropped, hand⟩ := change.handsOver upstream
      have items : state.publisher.queue.items.drop p.output.items.length = new := by
        rw [hand.queue.items_eq]
        exact List.drop_left
      rw [moved, items]
      exact .within upstream change hand
    · cases h
  | receive =>
    simp only [step, Queue.take?, Option.map_eq_some_iff] at h
    obtain ⟨⟨r, queue⟩, taken, rfl⟩ := h
    split at taken
    · cases taken
    · next r rest next =>
      cases taken
      exact .receive next
  | abandon =>
    cases h
    exact .abandon

/-- Each event that was taken is in one place, and so is the record that is made of it. -/
structure Sound (count : Nat) (p : NormalizerPool σ) : Prop where
  coherent : p.state.Coherent
  size : p.state.workers.length = count
  events : (p.state.taken : Multiset Event) =
    p.state.input.items + p.state.held + (p.state.normalised.map Record.event : List Event)
  made : p.made.map Prod.snd = p.state.normalised
  makers : ∀ m ∈ p.made, m.1 < count
  records : (p.state.normalised : Multiset Record) = p.state.inHand + p.put + p.state.dropped

/-- Every step leaves everything in one place. -/
theorem Sound.change [Repository σ] {count : Nat} {p p' : NormalizerPool σ} {a : Action}
    (hp : p.Sound count) (h : p.Change a p') : p'.Sound count := by
  cases h with
  | @within a state new dropped upstream change hand =>
    obtain ⟨notices, balance⟩ := change.balance hp.coherent
    obtain ⟨made, makers⟩ := change.madeBy_eq upstream
    refine ⟨hp.coherent.change change, change.length_workers.trans hp.size,
      balance.taken_eq hp.events, ?_, ?_, balance.normalised_eq hand hp.records⟩
    · rw [made, List.map_append, hp.made]
    · intro m member
      exact (List.mem_append.mp member).elim (hp.makers m) fun new => hp.size ▸ makers m new
  | @receive r rest next =>
    refine ⟨⟨hp.coherent.source, hp.coherent.input, hp.coherent.publisher.writing, ?_, ?_⟩, hp.size,
      hp.events, hp.made, hp.makers, hp.records⟩
    · intro records since last
      cases next.symm.trans (hp.coherent.publisher.last last).1
    · intro gone
      cases next.symm.trans (hp.coherent.publisher.gone gone).1
  | abandon =>
    have publisher := hp.coherent.publisher
    exact ⟨⟨hp.coherent.source, hp.coherent.input, publisher.writing,
      fun last => ⟨rfl, (publisher.last last).2⟩,
      fun gone => ⟨rfl, rfl, (publisher.gone gone).2.2⟩⟩,
      hp.size, hp.events, hp.made, hp.makers, hp.records⟩

/-- What is in the queue as long as somebody takes records, and when it is full. -/
structure Queued (capacity : Nat) (done : List Action) (p : NormalizerPool σ) : Prop where
  capacity_eq : p.output.capacity = capacity
  bounded : p.output.items.length ≤ capacity
  sink : .abandon ∉ done → p.output.hasSink = true
  fifo : .abandon ∉ done → p.received ++ p.output.items = p.put
  unread : .receive ∉ done → p.received = []
  /-- A record is dropped when the queue is full, and it stays full until a record is taken. -/
  full : .abandon ∉ done → .receive ∉ done → p.state.dropped ≠ [] →
    p.output.items.length = capacity

/-- Every step leaves the queue so. -/
theorem Queued.change [Repository σ] {capacity : Nat} {done : List Action} {p p' : NormalizerPool σ}
    {a : Action} (hp : p.Queued capacity done) (h : p.Change a p') :
    p'.Queued capacity (done ++ [a]) := by
  have before {b : Action} (never : b ∉ done ++ [a]) : b ∉ done :=
    fun member => never (List.mem_append_left _ member)
  cases h with
  | @within a state new dropped upstream change hand =>
    have capacity_eq : state.publisher.queue.capacity = capacity :=
      hand.capacity.trans hp.capacity_eq
    have bounded : p.output.items.length ≤ p.output.capacity := hp.capacity_eq.symm ▸ hp.bounded
    refine ⟨capacity_eq, hp.capacity_eq ▸ hand.queue.length_le bounded,
      fun kept => hand.sink.trans (hp.sink (before kept)), fun kept => ?_,
      fun unread => hp.unread (before unread), fun kept unread some => ?_⟩
    · show p.received ++ state.publisher.queue.items = p.put ++ new
      rw [hand.queue.items_eq, ← List.append_assoc]
      exact congrArg (· ++ new) (hp.fifo (before kept))
    · refine (hand.queue.full (hp.sink (before kept)) bounded ?_).trans hp.capacity_eq
      by_cases none : dropped = []
      · refine .inr ((hp.full (before kept) (before unread) ?_).trans hp.capacity_eq.symm)
        rwa [hand.dropped_eq, none, List.append_nil] at some
      · exact .inl none
  | @receive r rest next =>
    have once : .receive ∈ done ++ [.receive] := List.mem_append_right _ (.head _)
    have bounded := hp.bounded
    rw [next] at bounded
    refine ⟨hp.capacity_eq, (Nat.le_succ _).trans bounded, fun kept => hp.sink (before kept),
      fun kept => ?_, fun unread => absurd once unread, fun _ unread => absurd once unread⟩
    have fifo := hp.fifo (before kept)
    rw [next] at fifo
    exact (List.append_assoc _ _ _).trans fifo
  | abandon =>
    have never : .abandon ∈ done ++ [.abandon] := List.mem_append_right _ (.head _)
    exact ⟨hp.capacity_eq, Nat.zero_le _, fun kept => absurd never kept,
      fun kept => absurd never kept, fun unread => hp.unread (before unread),
      fun kept => absurd never kept⟩

/-- Whoever takes records leaves the order in which they are put. -/
theorem inOrder_change [Repository σ] {p p' : NormalizerPool σ} {a : Action} {w : Worker}
    (hp : p.state.InOrder w p.put) (h : p.Change a p') : ∃ w', p'.state.InOrder w' p'.put := by
  cases h with
  | within upstream change hand => exact hp.change change upstream hand.queue.items_eq
  | receive | abandon => exact ⟨w, hp.alone, hp.events, hp.records⟩

/-- What waits in the queue can be taken, in its order. -/
theorem run_receive [Repository σ] {p : NormalizerPool σ} {items : List Record}
    (waiting : p.output.items = items) : p.run (List.replicate items.length .receive) =
      some { p with
        state := p.withOutput { p.output with items := [] }
        received := p.received ++ items } := by
  induction items generalizing p with
  | nil =>
    have whole : { p.output with items := [] } = p.output := by rw [← waiting]
    rw [List.append_nil, whole]
    rfl
  | cons r rest ih =>
    have first : p.step .receive = some { p with
        state := p.withOutput { p.output with items := rest }
        received := p.received ++ [r] } := by
      simp only [step, Queue.take?, waiting]
      rfl
    rw [NormalizerPool.run, List.length_cons, List.replicate_succ, List.foldlM_cons, first]
    refine (ih rfl).trans ?_
    rw [List.append_assoc]
    rfl

/-- Once the collector is closed, the workers can go on by themselves until all have gone. -/
theorem exists_run_allGone [Repository σ] {p : NormalizerPool σ}
    (closed : p.state.input.hasSource = false) :
    ∃ (more : List Pipeline.Action) (p' : NormalizerPool σ),
      p.run (more.map Action.within) = some p' ∧ p'.allGone = true := by
  -- Each step of a worker leaves a pipeline that weighs less.
  induction weight : p.state.weight using Nat.strongRecOn generalizing p with
  | ind n ih =>
    cases gone : p.state.workers.all Worker.isGone with
    | true => exact ⟨[], p, rfl, gone⟩
    | false =>
      obtain ⟨w, member, here⟩ := List.all_eq_false.mp gone
      obtain ⟨n, found⟩ := List.getElem?_of_mem member
      obtain ⟨a, s', work, upstream, goes⟩ :=
        State.exists_work_of_worker closed found (Bool.eq_false_iff.mpr here)
      have change := State.Change.of_step goes
      have less := change.weight_le closed
      rw [if_pos work] at less
      have step : p.step (.within a) = some (p.moved a s') := by
        rw [NormalizerPool.step, if_pos upstream, goes]
        rfl
      obtain ⟨more, p', run, ended⟩ := ih s'.weight (by omega) (p := p.moved a s')
        (change.hasSource_eq_false closed) rfl
      refine ⟨a :: more, p', ?_, ended⟩
      rw [NormalizerPool.run, List.map_cons, List.foldlM_cons, step]
      exact run

end NormalizerPool
end ProxyMeter.Pipeline
