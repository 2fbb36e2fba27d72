import ProxyMeter.Pipeline.PublisherTask
import ProxyMeter.Proofs.Pipeline.Writes

/-!
# Moves of a publisher

What one move takes from the queue, gathers, hands to the store and brings to its end. While a batch
is being written nothing else happens, so what becomes of the writes changes nothing but the store.
-/

namespace ProxyMeter.Pipeline.Publisher

open Store Traffic

variable {σ : Type}

/-- The batch in the write in progress. -/
def Phase.inProgress : Phase → List (List Record)
  | .writing records _ _ => [records]
  | _ => []

/-- The last batch has been handed over. -/
structure Closing (p : Publisher σ) : Prop where
  items : p.queue.items = []
  source : p.queue.hasSource = false
  phase : (∃ records since, p.phase = .writing records since true) ∨ p.phase = .gone

/-- A batch is not empty and not beyond the limit, and it is full if that is why it is handed
over. -/
structure Delivery.Fits (limit : Nat) (d : Delivery) : Prop where
  some : d.records ≠ []
  within : d.records.length ≤ limit
  full : d.occasion = .full → d.records.length = limit

/-- The move tells the occasion. -/
theorem occasion_of_mem {p : Publisher σ} {move : Move} {d : Delivery} (h : d ∈ p.delivered move) :
    move.occasion? = some d.occasion := by
  unfold delivered at h
  split at h
  · cases List.mem_singleton.mp h
    assumption
  · cases h

theorem Move.occasion?_blind (move : Move) : move.blind.occasion? = move.occasion? := by
  cases move <;> rfl

/-- The end of a write hands nothing over. -/
theorem delivered_eq_nil {move : Move} (settles : move.blind = .written 0) (p : Publisher σ) :
    p.delivered move = [] := by
  have none : move.occasion? = none := by rw [← move.occasion?_blind, settles]; rfl
  rw [delivered, none]

theorem withStore_afterWrite {τ : Type} (store : τ) (last : Bool) (p : Publisher σ) :
    (p.withStore store).afterWrite last = (p.afterWrite last).withStore store := by
  cases last <;> rfl

variable [Repository σ] {now : Nat} {stop : Bool} {p p' : Publisher σ} {move : Move}
  {notices : List Notice}

/-- A move takes the first records from the queue, or none. -/
theorem Change.received_eq (hc : p.Coherent) (h : p.Change now stop move notices p') :
    p.received move ++ p'.queue.items = p.queue.items := by
  have settled {records : List Record} {since : Nat} {last : Bool} (p' : Publisher σ)
      (writing : p.phase = .writing records since last) (same : p'.queue = p.queue) :
      (p'.afterWrite last).queue.items = p.queue.items := by
    cases last with
    | false => exact congrArg Queue.items same
    | true => exact (hc.last writing).1.symm
  cases h with
  | take gathering next | fill gathering next => simp [received, next]
  | part gathering ended => exact ((Queue.ended_iff _).mp ended).1.symm
  | stored took writing => exact settled _ writing rfl
  | refused took writing => exact settled _ writing rfl
  | failed fault took writing => exact settled _ writing rfl
  | expired took writing => exact settled _ writing rfl
  | _ => rfl

/-- What a move gathers or hands over is what was gathered before and what it takes. -/
theorem Change.batch_eq (h : p.Change now stop move notices p') :
    (p'.delivered move).flatMap Delivery.records ++ p'.batch = p.batch ++ p.received move := by
  cases h with
  | take gathering next => simp [received, delivered, Move.occasion?, gathering, next]
  | fill gathering next => simp [received, delivered, Move.occasion?, next]
  | idle gathering => simp [received, delivered, Move.occasion?, gathering]
  | due => simp [received, delivered, Move.occasion?]
  | heed => simp [received, delivered, Move.occasion?]
  | part => simp [received, delivered, Move.occasion?, afterWrite]
  | finish => simp [received, delivered, Move.occasion?]
  | stored | refused | failed | expired =>
    simp [received, delivered, Move.occasion?]

/-- A move leaves the limit as it is. -/
theorem Change.limit_eq (h : p.Change now stop move notices p') : p'.limit = p.limit := by
  cases h with
  | part | stored | refused | failed | expired => exact limit_afterWrite _ _
  | _ => rfl

/-- Below the limit before a move, a batch that the move hands over fits and the rest is below the
limit. -/
theorem Change.fits (h : p.Change now stop move notices p')
    (room : p.batch.length < p.limit) :
    (∀ d ∈ p'.delivered move, d.Fits p.limit) ∧ p'.batch.length < p.limit := by
  cases h with
  | take gathering next more => simpa [delivered, Move.occasion?, gathering] using more
  | fill gathering next full =>
    refine ⟨?_, p.limit_pos⟩
    have size : p.batch.length + 1 = p.limit := by omega
    simp only [delivered, Move.occasion?, List.mem_singleton]
    rintro d rfl
    exact ⟨by simp, by simp [size], fun _ => by simp [size]⟩
  | idle gathering => simpa [delivered, Move.occasion?, gathering] using room
  | due gathering due begun =>
    refine ⟨?_, p.limit_pos⟩
    simp only [delivered, Move.occasion?, List.mem_singleton]
    rintro d rfl
    exact ⟨begun, room.le, fun full => Occasion.noConfusion full⟩
  | heed => exact ⟨List.forall_mem_nil _, room⟩
  | part gathering ended empty =>
    refine ⟨?_, (batch_afterWrite true p).symm ▸ room⟩
    simp [delivered, Move.occasion?, afterWrite]
  | finish gathering ended begun =>
    refine ⟨?_, p.limit_pos⟩
    simp only [delivered, Move.occasion?, List.mem_singleton]
    rintro d rfl
    exact ⟨begun, room.le, fun full => Occasion.noConfusion full⟩
  | stored | refused | failed | expired =>
    exact ⟨List.forall_mem_nil _, (batch_afterWrite _ _).symm ▸ room⟩

/-- A batch that is handed over because no more records can come is the last one. -/
theorem Change.closing (h : p.Change now stop move notices p') {d : Delivery}
    (member : d ∈ p'.delivered move) (closed : d.occasion = .closed) : p'.Closing := by
  have occasion := occasion_of_mem member
  rw [closed] at occasion
  cases h with
  | take | fill | idle | due => cases occasion
  | part => simp [delivered, Move.occasion?, afterWrite] at member
  | finish gathering ended =>
    obtain ⟨items, source⟩ := (Queue.ended_iff _).mp ended
    exact ⟨items, source, .inl ⟨_, _, rfl⟩⟩
  | heed | stored | refused | failed | expired => cases member

/-- After the last batch nothing more is handed over. -/
theorem Closing.change (hc : p.Closing) (h : p.Change now stop move notices p') :
    p'.Closing ∧ p'.delivered move = [] := by
  obtain ⟨records, since, writing⟩ := hc.phase.resolve_right h.phase_ne_gone
  obtain ⟨notice, succeeded, store, -, -, rfl, settles⟩ := h.of_writing writing
  exact ⟨⟨rfl, hc.source, .inr rfl⟩, delivered_eq_nil settles _⟩

/-- A batch that is handed over is being written until its write comes to its end. -/
theorem Change.outcomes_eq (h : p.Change now stop move notices p') :
    (notices.filterMap outcome?).map Outcome.records ++ p'.phase.inProgress =
      p.phase.inProgress ++ (p'.delivered move).map Delivery.records := by
  cases phase : p.phase with
  | writing records since last =>
    obtain ⟨notice, succeeded, store, rfl, told, rfl, settles⟩ := h.of_writing phase
    rw [delivered_eq_nil settles, List.filterMap_cons_some told]
    cases last <;> simp [farewell, outcome?, afterWrite, Phase.inProgress]
  | gone => exact absurd phase h.phase_ne_gone
  | gathering =>
    cases h with
    | take | idle | heed => simp [delivered, Move.occasion?, phase, Phase.inProgress, outcome?]
    | fill | due | finish => simp [delivered, Move.occasion?, Phase.inProgress, outcome?]
    | part => simp [delivered, Move.occasion?, Phase.inProgress, outcome?, afterWrite]
    | stored _ found | refused _ found | failed _ _ found | expired _ found =>
      cases phase.symm.trans found

/-- The publisher says that it is gone when it goes, and then no record is left or can come. -/
theorem Change.gone (hc : p.Coherent) (h : p.Change now stop move notices p')
    (told : .publisherGone ∈ notices) : p'.phase = .gone ∧ p'.queue.hasSource = false := by
  cases phase : p.phase with
  | writing records since last =>
    obtain ⟨notice, succeeded, store, rfl, outcome, rfl, -⟩ := h.of_writing phase
    cases last with
    | false =>
      cases List.mem_singleton.mp told
      cases outcome
    | true => exact ⟨rfl, (hc.last phase).2⟩
  | gone => exact absurd phase h.phase_ne_gone
  | gathering =>
    cases h with
    | part _ ended => exact ⟨rfl, ((Queue.ended_iff _).mp ended).2⟩
    | take | fill | idle => cases told
    | due | heed | finish => simp at told
    | stored _ found | refused _ found | failed _ _ found | expired _ found =>
      cases phase.symm.trans found

/-- The publisher does not go without saying so. -/
theorem Change.told (h : p.Change now stop move notices p') (gone : p'.phase = .gone) :
    .publisherGone ∈ notices := by
  cases phase : p.phase with
  | writing records since last =>
    obtain ⟨notice, succeeded, store, rfl, -, rfl, -⟩ := h.of_writing phase
    cases last with
    | false => cases gone
    | true => exact .tail _ (.head _)
  | gone => exact absurd phase h.phase_ne_gone
  | gathering =>
    cases h with
    | part => exact .head _
    | take | idle | heed => cases phase.symm.trans gone
    | fill | due | finish => cases gone
    | stored _ found | refused _ found | failed _ _ found | expired _ found =>
      cases phase.symm.trans found

/-- The end of a write before another store. -/
theorem step_written (now : Nat) (stop : Bool) {records : List Record} {since : Nat} {last : Bool}
    (writing : p.phase = .writing records since last) : ∃ notices store,
      p.step now stop (.written 0) = some (notices, (p.withStore store).afterWrite last) := by
  cases saved : Repository.save records p.store with
  | ok store =>
    refine ⟨.stored records 0 :: farewell last, store, ?_⟩
    simp only [step, writing, saved, settled_eq]
    rfl
  | error fault =>
    refine ⟨.lost records (.refused fault) 0 :: farewell last, p.store, ?_⟩
    simp only [step, writing, saved, lose, settled_eq]
    rfl

/-- Before another store, and whatever becomes of its writes, the publisher moves in the same
way. -/
theorem Change.replay (h : p.Change now stop move notices p') {τ : Type} [Repository τ]
    (store : τ) : ∃ notices' store',
      (p.withStore store).step now stop move.blind = some (notices', p'.withStore store') := by
  cases phase : p.phase with
  | writing records since last =>
    obtain ⟨notice, succeeded, own, -, -, rfl, settles⟩ := h.of_writing phase
    obtain ⟨notices', store', step⟩ := step_written now stop (p := p.withStore store) phase
    refine ⟨notices', store', ?_⟩
    rw [settles, step, ← withStore_afterWrite]
    rfl
  | gone => exact absurd phase h.phase_ne_gone
  | gathering =>
    cases h with
    | take _ next room =>
      exact ⟨[], store, by simp [step, withStore, Move.blind, phase, Queue.take?, next, room]⟩
    | fill _ next full =>
      exact ⟨[], store,
        by simp [step, withStore, Move.blind, phase, Queue.take?, next, full, write]⟩
    | idle _ due empty =>
      exact ⟨[], store, by simp [step, withStore, Move.blind, phase, due, empty, nextDeadline]⟩
    | due _ due begun =>
      exact ⟨[.due p.batch.length], store,
        by simp [step, withStore, Move.blind, phase, due, begun, nextDeadline, write]⟩
    | heed _ signal first =>
      exact ⟨[.publisherDraining], store,
        by simp [step, withStore, Move.blind, phase, signal, first]⟩
    | part _ ended empty =>
      refine ⟨[.publisherGone], store, ?_⟩
      simp [step, withStore, Move.blind, phase, ended, empty, settled_eq, afterWrite, farewell]
    | finish _ ended begun =>
      exact ⟨[.lastWrite p.batch.length], store,
        by simp [step, withStore, Move.blind, phase, ended, begun, write]⟩
    | stored _ found | refused _ found | failed _ _ found | expired _ found =>
      cases phase.symm.trans found

end ProxyMeter.Pipeline.Publisher
