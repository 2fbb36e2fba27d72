import Mathlib.Algebra.Order.Group.Multiset
import Mathlib.Tactic.Abel
import ProxyMeter.Proofs.Pipeline.Steps
import ProxyMeter.Proofs.Runs

/-!
# Where every event is

The notices of a pipeline are its ledger: what was taken, normalised, dropped, stored and lost can
be read off them. Everything else that has come in is in one of the places of the pipeline. Each
step moves what it moves from one place to the next, and the sums over the places balance.
-/

namespace ProxyMeter.Pipeline

open Calendar Store Traffic

namespace Notice

/-- The entries of one kind in a ledger whose latest notice is the first, the earliest first. -/
def entries {α : Type} (kind : Notice → Option α) (notices : List Notice) : List α :=
  notices.reverse.filterMap kind

/-- New notices add their entries at the end. -/
theorem entries_append {α : Type} (kind : Notice → Option α) (new old : List Notice) :
    entries kind (new.reverse ++ old) = entries kind old ++ new.filterMap kind := by
  simp [entries]

end Notice

/-- The events that a worker holds and has not made a record of. -/
def Worker.held (w : Worker) : Multiset Event :=
  match w.phase with
  | .holding e => {e}
  | _ => 0

/-- The records that a worker has not handed over. -/
def Worker.inHand (w : Worker) : Multiset Record :=
  match w.phase with
  | .handing r => {r}
  | _ => 0

/-- The records in the write in progress. -/
def Publisher.Phase.records : Publisher.Phase → List Record
  | .writing records _ _ => records
  | _ => []

variable {σ : Type}

/-- The records that the publisher has: waiting, gathered, or being written. -/
def Publisher.stock (p : Publisher σ) : Multiset Record :=
  p.queue.items + p.batch + p.phase.records

/-- A batch is gathered only between writes; nothing waits or can come while the last one is
written, and nothing is left when the publisher is gone. -/
structure Publisher.Coherent (p : Publisher σ) : Prop where
  writing : ∀ {records since last}, p.phase = .writing records since last → p.batch = []
  last : ∀ {records since}, p.phase = .writing records since true →
    p.queue.items = [] ∧ p.queue.hasSource = false
  gone : p.phase = .gone → p.queue.items = [] ∧ p.queue.hasSink = false ∧ p.batch = []

/-- What a publisher is after a write depends on nothing but the write being the last. -/
theorem Publisher.Coherent.afterWrite {p : Publisher σ} {last : Bool} (batch : p.batch = []) :
    (p.afterWrite last).Coherent := by
  cases last with
  | false => exact ⟨nofun, nofun, nofun⟩
  | true => exact ⟨nofun, nofun, fun _ => ⟨rfl, rfl, batch⟩⟩

/-- Every move of the publisher keeps it coherent. -/
theorem Publisher.Coherent.change [Repository σ] {now : Nat} {stop : Bool} {p p' : Publisher σ}
    {move : Move} {notices : List Notice} (hc : p.Coherent)
    (h : p.Change now stop move notices p') : p'.Coherent := by
  cases h with
  | take gathering => exact ⟨by simp [gathering], by simp [gathering], by simp [gathering]⟩
  | fill => exact ⟨fun _ => rfl, nofun, nofun⟩
  | idle gathering => exact ⟨by simp [gathering], by simp [gathering], by simp [gathering]⟩
  | due => exact ⟨fun _ => rfl, nofun, nofun⟩
  | heed gathering => exact ⟨by simp [gathering], by simp [gathering], by simp [gathering]⟩
  | part gathering ended empty => exact .afterWrite empty
  | finish gathering ended =>
    exact ⟨fun _ => rfl, fun _ => (Queue.ended_iff _).mp ended, nofun⟩
  | stored took writing => exact .afterWrite (hc.writing writing)
  | refused took writing => exact .afterWrite (hc.writing writing)
  | failed fault took writing => exact .afterWrite (hc.writing writing)
  | expired took writing => exact .afterWrite (hc.writing writing)

/-- No move of the publisher takes the source from its queue. -/
theorem Publisher.Change.hasSource_eq [Repository σ] {now : Nat} {stop : Bool} {p p' : Publisher σ}
    {move : Publisher.Move} {notices : List Notice} (h : p.Change now stop move notices p') :
    p'.queue.hasSource = p.queue.hasSource := by
  cases h with
  | part | stored | refused | failed | expired => exact hasSource_afterWrite _ _
  | _ => rfl

/-- The records in the batches that notices say were stored. -/
def Notice.storedIn (notices : List Notice) : Multiset Record :=
  ((notices.filterMap Notice.stored?).flatten : List Record)

/-- The records in the batches that notices say were lost. -/
def Notice.lostIn (notices : List Notice) : Multiset Record :=
  ((notices.filterMap Notice.lost?).flatten : List Record)

/-- A settled write leaves the publisher without the records that were written. -/
theorem Publisher.stock_afterWrite {p : Publisher σ} {records : List Record} {since : Nat}
    {last : Bool} (hc : p.Coherent) (writing : p.phase = .writing records since last) :
    p.stock = (p.afterWrite last).stock + records := by
  cases last with
  | false => simp [stock, Publisher.afterWrite, writing, Phase.records]
  | true =>
    simp [stock, Publisher.afterWrite, writing, Phase.records, Queue.abandon, (hc.last writing).1]

/-- A notice that is not about a write leaves no entry about one. -/
theorem Notice.storedIn_silent {notice : Notice} (stored : notice.stored? = none)
    (lost : notice.lost? = none) : storedIn [notice] = 0 ∧ lostIn [notice] = 0 := by
  simp [storedIn, lostIn, stored, lost]

/-- The entry of a write that was stored. -/
theorem Publisher.storedIn_stored (records : List Record) (took : Float) (last : Bool) :
    Notice.storedIn (.stored records took :: farewell last) = records ∧
      Notice.lostIn (.stored records took :: farewell last) = 0 := by
  cases last <;>
    simp [Notice.storedIn, Notice.lostIn, Notice.stored?, Notice.lost?, farewell,
      List.filterMap_cons]

/-- The entry of a write that was lost. -/
theorem Publisher.storedIn_lost (records : List Record) (fault : WriteFault) (took : Float)
    (last : Bool) :
    Notice.storedIn (.lost records fault took :: farewell last) = 0 ∧
      Notice.lostIn (.lost records fault took :: farewell last) = records := by
  cases last <;>
    simp [Notice.storedIn, Notice.lostIn, Notice.stored?, Notice.lost?, farewell,
      List.filterMap_cons]

/-- A lost write leaves the publisher without its records. -/
theorem Publisher.stock_lost {p : Publisher σ} {records : List Record} {since : Nat} {last : Bool}
    (hc : p.Coherent) (writing : p.phase = .writing records since last) (fault : WriteFault)
    (took : Float) :
    p.stock = (p.afterWrite last).stock +
      Notice.storedIn (.lost records fault took :: farewell last) +
      Notice.lostIn (.lost records fault took :: farewell last) := by
  obtain ⟨stored, lost⟩ := storedIn_lost records fault took last
  rw [stored, lost, add_zero]
  exact stock_afterWrite hc writing

/-- What the publisher had before a move it has afterwards, or it was stored or lost. -/
theorem Publisher.Change.stock_eq [Repository σ] {now : Nat} {stop : Bool} {p p' : Publisher σ}
    {move : Publisher.Move} {notices : List Notice} (hc : p.Coherent)
    (h : p.Change now stop move notices p') :
    p.stock = p'.stock + Notice.storedIn notices + Notice.lostIn notices := by
  have silent : Notice.storedIn [] = 0 ∧ Notice.lostIn [] = 0 := ⟨rfl, rfl⟩
  cases h with
  | @take r rest gathering next room =>
    simp only [stock, gathering, next, Phase.records, silent, add_zero, ← Multiset.cons_coe,
      ← Multiset.coe_add, ← Multiset.singleton_add, Multiset.coe_nil]
    abel
  | @fill r rest gathering next full =>
    simp only [stock, gathering, next, Phase.records, silent, add_zero, ← Multiset.cons_coe,
      ← Multiset.coe_add, ← Multiset.singleton_add, Multiset.coe_nil]
    abel
  | idle gathering due empty => simp [stock, silent]
  | due gathering due begun =>
    simp [stock, gathering, Phase.records, @Notice.storedIn_silent (.due _) rfl rfl]
  | heed gathering signal first =>
    simp [stock, @Notice.storedIn_silent .publisherDraining rfl rfl]
  | part gathering ended empty =>
    obtain ⟨none, -⟩ := (Queue.ended_iff _).mp ended
    simp [stock, gathering, empty, none, afterWrite, Phase.records, Queue.abandon,
      @Notice.storedIn_silent .publisherGone rfl rfl]
  | finish gathering ended begun =>
    simp [stock, gathering, Phase.records, @Notice.storedIn_silent (.lastWrite _) rfl rfl]
  | @stored records since last store took writing saved =>
    obtain ⟨stored, lost⟩ := storedIn_stored records took last
    have after : ({ p with store }.afterWrite last).stock = (p.afterWrite last).stock := by
      cases last <;> rfl
    rw [stored, lost, add_zero, after]
    exact stock_afterWrite hc writing
  | refused took writing unsaved => exact stock_lost hc writing _ took
  | failed fault took writing => exact stock_lost hc writing _ took
  | expired took writing late => exact stock_lost hc writing _ took

/-- A kind of entry that the publisher's notices never are. -/
def Notice.Upstream {α : Type} (kind : Notice → Option α) : Prop :=
  (∀ records, kind (.due records) = none) ∧ kind .publisherDraining = none ∧
    (∀ records, kind (.lastWrite records) = none) ∧
    (∀ records took, kind (.stored records took) = none) ∧
    (∀ records fault took, kind (.lost records fault took) = none) ∧ kind .publisherGone = none

/-- Events are not taken at the publisher. -/
theorem Notice.upstream_taken : Upstream taken? := by simp [Upstream, taken?]

/-- Records are not made at the publisher. -/
theorem Notice.upstream_normalised : Upstream normalised? := by simp [Upstream, normalised?]

/-- Records are not dropped by the publisher. -/
theorem Notice.upstream_dropped : Upstream dropped? := by simp [Upstream, dropped?]

/-- The publisher's moves leave no entries about events or about records that workers handle. -/
theorem Publisher.Change.filterMap_eq_nil [Repository σ] {now : Nat} {stop : Bool}
    {p p' : Publisher σ} {move : Publisher.Move} {notices : List Notice}
    (h : p.Change now stop move notices p') {α : Type} {kind : Notice → Option α}
    (upstream : Notice.Upstream kind) : notices.filterMap kind = [] := by
  obtain ⟨due, draining, lastWrite, stored, lost, gone⟩ := upstream
  have farewell (last : Bool) : (farewell last).filterMap kind = [] := by
    cases last <;> simp [Publisher.farewell, gone]
  cases h <;> simp [due, draining, lastWrite, stored, lost, gone, farewell]

namespace State

/-- The events that were taken. -/
def taken (s : State σ) : List Event := Notice.entries Notice.taken? s.notices

/-- The events that were turned away. -/
def turned (s : State σ) : List Event := Notice.entries Notice.turned? s.notices

/-- The records that were made. -/
def normalised (s : State σ) : List Record := Notice.entries Notice.normalised? s.notices

/-- The records that found no place in the queue of the publisher. -/
def dropped (s : State σ) : List Record := Notice.entries Notice.dropped? s.notices

/-- The batches that were stored. -/
def stored (s : State σ) : List (List Record) := Notice.entries Notice.stored? s.notices

/-- The batches that were lost in writes which failed or took too long. -/
def lost (s : State σ) : List (List Record) := Notice.entries Notice.lost? s.notices

/-- The events that workers hold and have not made records of. -/
def held (s : State σ) : Multiset Event := (s.workers.map Worker.held).sum

/-- The records that workers have not handed over. -/
def inHand (s : State σ) : Multiset Record := (s.workers.map Worker.inHand).sum

/-- Workers and publisher fit together: the publisher's queue has a source as long as there is a
worker, and the collector is closed and empty when there is none. -/
structure Coherent (s : State σ) : Prop where
  source : s.publisher.queue.hasSource = !s.workers.all Worker.isGone
  input : s.workers.all Worker.isGone = true → s.input.items = [] ∧ s.input.hasSource = false
  publisher : s.publisher.Coherent

/-- While one worker has not gone, not all have. -/
theorem not_all_isGone {workers : List Worker} {n : Nat} {w : Worker} (h : workers[n]? = some w)
    (here : w.isGone = false) : workers.all Worker.isGone = false := by
  rw [List.all_eq_false]
  exact ⟨w, List.mem_of_getElem? h, by simp [here]⟩

/-- A worker that is put in a place is found there. -/
theorem getElem?_setWorker {s : State σ} {n : Nat} {w : Worker} (h : s.workers[n]? = some w)
    (w' : Worker) : (s.setWorker n w').workers[n]? = some w' := by
  obtain ⟨bound, -⟩ := List.getElem?_eq_some_iff.mp h
  exact List.getElem?_set_self bound

/-- A worker that changes and does not go leaves the pipeline coherent. -/
theorem Coherent.setWorker {s : State σ} {n : Nat} {w : Worker} (hc : s.Coherent)
    (h : s.workers[n]? = some w) (before : w.isGone = false) (w' : Worker)
    (after : w'.isGone = false) : (s.setWorker n w').Coherent := by
  have here := not_all_isGone (getElem?_setWorker h w') after
  refine ⟨?_, ?_, hc.publisher⟩
  · rw [here]
    exact hc.source.trans (by rw [not_all_isGone h before])
  · rw [here]
    exact nofun

/-- Notices leave the pipeline coherent. -/
theorem Coherent.noting {s : State σ} (hc : s.Coherent) (notices : List Notice) :
    (s.noting notices).Coherent :=
  ⟨hc.source, hc.input, hc.publisher⟩

/-- The pipeline stays coherent when a worker leaves, also when it is the last one. -/
theorem Coherent.leave {s : State σ} {n : Nat} {w : Worker} (hc : s.Coherent)
    (h : s.workers[n]? = some w) (before : w.isGone = false) (ended : s.input.ended = true) :
    (s.leave n w).Coherent := by
  have source := hc.source.trans (by rw [not_all_isGone h before])
  unfold State.leave
  dsimp only
  split
  · next all =>
    refine ⟨?_, fun _ => ⟨rfl, ((Queue.ended_iff _).mp ended).2⟩, ?_⟩
    · simpa [Queue.close] using all
    · exact ⟨hc.publisher.writing, fun last => ⟨(hc.publisher.last last).1, rfl⟩, hc.publisher.gone⟩
  · next some =>
    refine ⟨?_, fun all => absurd all some, hc.publisher⟩
    rw [Bool.not_eq_true] at some
    rw [some]
    exact source

/-- Every step of the pipeline keeps it coherent. -/
theorem Coherent.change [Repository σ] {s s' : State σ} {a : Action} (hc : s.Coherent)
    (h : s.Change a s') : s'.Coherent := by
  cases h with
  | take e source =>
    refine ⟨hc.source, fun all => ?_, hc.publisher⟩
    rw [(hc.input all).2] at source
    cases source
  | turnAway | cancel | pass => exact ⟨hc.source, hc.input, hc.publisher⟩
  | close => exact ⟨hc.source, fun all => ⟨(hc.input all).1, rfl⟩, hc.publisher⟩
  | listen waiting => exact hc.setWorker waiting rfl _ rfl
  | @receive n draining e rest listening next =>
    have set := hc.setWorker listening rfl ⟨.holding e, draining⟩ rfl
    refine ⟨set.source, fun all => ?_, set.publisher⟩
    have none : s.input.items = [] := (set.input all).1
    rw [next] at none
    cases none
  | heed listening => exact (hc.setWorker listening rfl _ rfl).noting _
  | leave listening ended => exact hc.leave listening rfl ended
  | normalise createdAt took holding => exact (hc.setWorker holding rfl _ rfl).noting _
  | @hand n draining r handing sink room =>
    have source := hc.source.trans (by rw [not_all_isGone handing rfl])
    have set := hc.setWorker handing rfl ⟨.waiting, draining⟩ rfl
    refine ⟨set.source, set.input, hc.publisher.writing, fun last => ?_, fun gone => ?_⟩
    · rw [(hc.publisher.last last).2] at source
      cases source
    · rw [(hc.publisher.gone gone).2.1] at sink
      cases sink
  | drop handing => exact (hc.setWorker handing rfl _ rfl).noting _
  | publisher change =>
    refine ⟨?_, hc.input, hc.publisher.change change⟩
    exact change.hasSource_eq.trans hc.source

/-- What has come in is in one place each: taken events wait, are held or have been made records of;
records are in hand, at the publisher, or dropped, stored or lost. -/
structure Conserved (s : State σ) : Prop where
  events : (s.taken : Multiset Event) =
    s.input.items + s.held + (s.normalised.map Record.event : List Event)
  records : (s.normalised : Multiset Record) =
    s.inHand + s.publisher.stock + s.dropped + (s.stored.flatten : List Record) +
      (s.lost.flatten : List Record)

/-- What a worker gives or takes changes what the workers hold. -/
theorem held_setWorker {s : State σ} {n : Nat} {w : Worker} (h : s.workers[n]? = some w)
    (w' : Worker) : (s.setWorker n w').held + w.held = s.held + w'.held :=
  sum_map_set Worker.held h w'

/-- What a worker gives or takes changes what the workers have in hand. -/
theorem inHand_setWorker {s : State σ} {n : Nat} {w : Worker} (h : s.workers[n]? = some w)
    (w' : Worker) : (s.setWorker n w').inHand + w.inHand = s.inHand + w'.inHand :=
  sum_map_set Worker.inHand h w'

/-- A worker that holds what it held leaves what the workers hold as it is. -/
theorem held_setWorker_of_eq {s : State σ} {n : Nat} {w w' : Worker} (h : s.workers[n]? = some w)
    (same : w'.held = w.held) : (s.setWorker n w').held = s.held := by
  have moved := held_setWorker h w'
  rw [same] at moved
  exact add_right_cancel moved

/-- A worker that has in hand what it had leaves what the workers have in hand as it is. -/
theorem inHand_setWorker_of_eq {s : State σ} {n : Nat} {w w' : Worker}
    (h : s.workers[n]? = some w) (same : w'.inHand = w.inHand) :
    (s.setWorker n w').inHand = s.inHand := by
  have moved := inHand_setWorker h w'
  rw [same] at moved
  exact add_right_cancel moved

/-- The balance of a step: what it takes in and what was there before is what is there afterwards
and what it lets out. -/
structure Balance (s : State σ) (notices : List Notice) (s' : State σ) : Prop where
  ledger : s'.notices = notices.reverse ++ s.notices
  events : (notices.filterMap Notice.taken? : Multiset Event) + s.input.items + s.held =
    s'.input.items + s'.held +
      ((notices.filterMap Notice.normalised?).map Record.event : List Event)
  records : (notices.filterMap Notice.normalised? : Multiset Record) + s.inHand +
      s.publisher.stock =
    s'.inHand + s'.publisher.stock + (notices.filterMap Notice.dropped? : List Record) +
      Notice.storedIn notices + Notice.lostIn notices

/-- Events that were taken stay in one place each. -/
theorem Balance.taken_eq {s s' : State σ} {notices : List Notice} (h : s.Balance notices s')
    (before : (s.taken : Multiset Event) =
      s.input.items + s.held + (s.normalised.map Record.event : List Event)) :
    (s'.taken : Multiset Event) =
      s'.input.items + s'.held + (s'.normalised.map Record.event : List Event) := by
  simp only [taken, normalised, h.ledger, Notice.entries_append, List.map_append,
    ← Multiset.coe_add]
  simp only [taken, normalised] at before
  calc (Notice.entries Notice.taken? s.notices : Multiset Event) +
        notices.filterMap Notice.taken?
      = (Notice.entries Notice.normalised? s.notices).map Record.event +
          ((notices.filterMap Notice.taken? : Multiset Event) + s.input.items + s.held) := by
        rw [before]
        abel
    _ = _ := by
        rw [h.events]
        abel

/-- A step with a balance of its own keeps the balance. -/
theorem Conserved.of_balance {s s' : State σ} {notices : List Notice} (hc : s.Conserved)
    (h : s.Balance notices s') : s'.Conserved := by
  refine ⟨h.taken_eq hc.events, ?_⟩
  simp only [normalised, dropped, stored, lost, h.ledger, Notice.entries_append,
    List.flatten_append, ← Multiset.coe_add]
  have before := hc.records
  simp only [normalised, dropped, stored, lost] at before
  have records := h.records
  simp only [Notice.storedIn, Notice.lostIn] at records
  calc (Notice.entries Notice.normalised? s.notices : Multiset Record) +
        notices.filterMap Notice.normalised?
      = Notice.entries Notice.dropped? s.notices +
          (Notice.entries Notice.stored? s.notices).flatten +
          (Notice.entries Notice.lost? s.notices).flatten +
          ((notices.filterMap Notice.normalised? : Multiset Record) +
            s.inHand + s.publisher.stock) := by
        rw [before]
        abel
    _ = _ := by
        rw [records]
        abel

/-- A step that moves nothing is balanced. -/
theorem Balance.of_still {s s' : State σ} {notices : List Notice}
    (ledger : s'.notices = notices.reverse ++ s.notices)
    (noEvent : notices.filterMap Notice.taken? = [])
    (noRecord : notices.filterMap Notice.normalised? = [])
    (noDrop : notices.filterMap Notice.dropped? = [])
    (noWrite : Notice.storedIn notices = 0 ∧ Notice.lostIn notices = 0)
    (items : s'.input.items = s.input.items) (held : s'.held = s.held)
    (inHand : s'.inHand = s.inHand) (stock : s'.publisher.stock = s.publisher.stock) :
    s.Balance notices s' := by
  refine ⟨ledger, ?_, ?_⟩
  · rw [noEvent, noRecord, items, held]
    simp
  · rw [noRecord, noDrop, noWrite.1, noWrite.2, inHand, stock]
    simp

private theorem Balance.take (s : State σ) (e : Event) : s.Balance [.collected e]
    ({ s with input := { s.input with items := s.input.items ++ [e] } }.noting
      [.collected e]) := by
  refine ⟨rfl, ?_, ?_⟩
  · show (([e] : List Event) : Multiset Event) + s.input.items + s.held =
      (s.input.items ++ [e] : List Event) + s.held + ([] : List Event)
    rw [← Multiset.coe_add, Multiset.coe_nil]
    abel
  · show (([] : List Record) : Multiset Record) + s.inHand + s.publisher.stock =
      s.inHand + s.publisher.stock + ([] : List Record) + 0 + 0
    simp

private theorem Balance.receive {s : State σ} {n : Nat} {draining : Bool} {e : Event}
    {rest : List Event} (listening : s.workers[n]? = some ⟨.listening, draining⟩)
    (next : s.input.items = e :: rest) : s.Balance []
    ({ s with input := { s.input with items := rest } }.setWorker n
      ⟨.holding e, draining⟩) := by
  have held : (s.setWorker n ⟨.holding e, draining⟩).held + 0 = s.held + {e} :=
    held_setWorker listening ⟨.holding e, draining⟩
  have inHand : (s.setWorker n ⟨.holding e, draining⟩).inHand = s.inHand :=
    inHand_setWorker_of_eq listening rfl
  rw [add_zero] at held
  refine ⟨rfl, ?_, ?_⟩
  · show (([] : List Event) : Multiset Event) + s.input.items + s.held =
      rest + (s.setWorker n ⟨.holding e, draining⟩).held + ([] : List Event)
    rw [held, next, ← Multiset.cons_coe, ← Multiset.singleton_add, Multiset.coe_nil]
    abel
  · show (([] : List Record) : Multiset Record) + s.inHand + s.publisher.stock =
      (s.setWorker n ⟨.holding e, draining⟩).inHand + s.publisher.stock + ([] : List Record) + 0 + 0
    rw [inHand]
    simp

private theorem Balance.leave {s : State σ} {n : Nat} {draining : Bool}
    (listening : s.workers[n]? = some ⟨.listening, draining⟩) (ended : s.input.ended = true) :
    s.Balance [.workerGone n] (s.leave n ⟨.listening, draining⟩) := by
  have held : (s.setWorker n ⟨.gone, draining⟩).held = s.held :=
    held_setWorker_of_eq listening rfl
  have inHand : (s.setWorker n ⟨.gone, draining⟩).inHand = s.inHand :=
    inHand_setWorker_of_eq listening rfl
  obtain ⟨none, -⟩ := (Queue.ended_iff _).mp ended
  unfold State.leave
  dsimp only
  split
  · exact .of_still rfl rfl rfl rfl ⟨rfl, rfl⟩ none.symm held inHand rfl
  · exact .of_still rfl rfl rfl rfl ⟨rfl, rfl⟩ rfl held inHand rfl

private theorem Balance.normalise {s : State σ} {n : Nat} {draining : Bool} {e : Event}
    (createdAt : Instant) (took : Float)
    (holding : s.workers[n]? = some ⟨.holding e, draining⟩) :
    s.Balance [.normalised ⟨e, createdAt⟩ took]
      ((s.setWorker n ⟨.handing ⟨e, createdAt⟩, draining⟩).noting
        [.normalised ⟨e, createdAt⟩ took]) := by
  have held : (s.setWorker n ⟨.handing ⟨e, createdAt⟩, draining⟩).held + {e} = s.held + 0 :=
    held_setWorker holding ⟨.handing ⟨e, createdAt⟩, draining⟩
  have inHand : (s.setWorker n ⟨.handing ⟨e, createdAt⟩, draining⟩).inHand + 0 =
      s.inHand + {⟨e, createdAt⟩} :=
    inHand_setWorker holding ⟨.handing ⟨e, createdAt⟩, draining⟩
  rw [add_zero] at held inHand
  refine ⟨rfl, ?_, ?_⟩
  · show (([] : List Event) : Multiset Event) + s.input.items + s.held =
      s.input.items + (s.setWorker n ⟨.handing ⟨e, createdAt⟩, draining⟩).held +
        ([e] : List Event)
    rw [← held, Multiset.coe_nil, Multiset.coe_singleton]
    abel
  · show (([⟨e, createdAt⟩] : List Record) : Multiset Record) + s.inHand + s.publisher.stock =
      (s.setWorker n ⟨.handing ⟨e, createdAt⟩, draining⟩).inHand + s.publisher.stock +
        ([] : List Record) + 0 + 0
    rw [inHand, Multiset.coe_nil, Multiset.coe_singleton]
    abel

-- Both ways of handing a record over leave the worker without it.
private theorem handed {s : State σ} {n : Nat} {draining : Bool} {r : Record}
    (handing : s.workers[n]? = some ⟨.handing r, draining⟩) :
    (s.setWorker n ⟨.waiting, draining⟩).held = s.held ∧
      s.inHand = (s.setWorker n ⟨.waiting, draining⟩).inHand + {r} := by
  have inHand : (s.setWorker n ⟨.waiting, draining⟩).inHand + {r} = s.inHand + 0 :=
    inHand_setWorker handing ⟨.waiting, draining⟩
  rw [add_zero] at inHand
  exact ⟨held_setWorker_of_eq handing rfl, inHand.symm⟩

private theorem Balance.hand {s : State σ} {n : Nat} {draining : Bool} {r : Record}
    (handing : s.workers[n]? = some ⟨.handing r, draining⟩) : s.Balance []
    { s.setWorker n ⟨.waiting, draining⟩ with
      publisher := { s.publisher with
        queue := { s.publisher.queue with items := s.publisher.queue.items ++ [r] } } } := by
  obtain ⟨held, inHand⟩ := handed handing
  refine ⟨rfl, ?_, ?_⟩
  · show (([] : List Event) : Multiset Event) + s.input.items + s.held =
      s.input.items + (s.setWorker n ⟨.waiting, draining⟩).held + ([] : List Event)
    rw [held]
    simp
  · show (([] : List Record) : Multiset Record) + s.inHand + s.publisher.stock =
      (s.setWorker n ⟨.waiting, draining⟩).inHand +
        ((s.publisher.queue.items ++ [r] : List Record) + s.publisher.batch +
          s.publisher.phase.records) + ([] : List Record) + 0 + 0
    rw [inHand, Publisher.stock, ← Multiset.coe_add, Multiset.coe_nil, Multiset.coe_singleton]
    abel

private theorem Balance.drop {s : State σ} {n : Nat} {draining : Bool} {r : Record}
    (handing : s.workers[n]? = some ⟨.handing r, draining⟩) (why : Refusal) :
    s.Balance [.dropped why r]
      ((s.setWorker n ⟨.waiting, draining⟩).noting [.dropped why r]) := by
  obtain ⟨held, inHand⟩ := handed handing
  refine ⟨rfl, ?_, ?_⟩
  · show (([] : List Event) : Multiset Event) + s.input.items + s.held =
      s.input.items + (s.setWorker n ⟨.waiting, draining⟩).held + ([] : List Event)
    rw [held]
    simp
  · show (([] : List Record) : Multiset Record) + s.inHand + s.publisher.stock =
      (s.setWorker n ⟨.waiting, draining⟩).inHand + s.publisher.stock + ([r] : List Record) + 0 + 0
    rw [inHand, Multiset.coe_nil, Multiset.coe_singleton]
    abel

private theorem Balance.publisher [Repository σ] {s : State σ} {move : Publisher.Move}
    {notices : List Notice} {publisher : Publisher σ} (coherent : s.Coherent)
    (change : s.publisher.Change s.now s.stop move notices publisher) :
    s.Balance notices ({ s with publisher }.noting notices) := by
  have stock := change.stock_eq coherent.publisher
  have noEvent := change.filterMap_eq_nil Notice.upstream_taken
  have noRecord := change.filterMap_eq_nil Notice.upstream_normalised
  have noDrop := change.filterMap_eq_nil Notice.upstream_dropped
  refine ⟨rfl, ?_, ?_⟩
  · rw [noEvent, noRecord]
    show (([] : List Event) : Multiset Event) + s.input.items + s.held =
      s.input.items + s.held + ([] : List Event)
    simp
  · rw [noRecord, noDrop]
    show (([] : List Record) : Multiset Record) + s.inHand + s.publisher.stock =
      s.inHand + publisher.stock + ([] : List Record) + Notice.storedIn notices +
        Notice.lostIn notices
    rw [stock, Multiset.coe_nil]
    abel

/-- Every step of the pipeline moves what it moves from one place to the next. -/
theorem Change.balance [Repository σ] {s s' : State σ} {a : Action} (coherent : s.Coherent)
    (h : s.Change a s') : ∃ notices, s.Balance notices s' := by
  cases h with
  | take e => exact ⟨_, .take s e⟩
  | @turnAway e why turned =>
    exact ⟨[.turnedAway why e], .of_still rfl rfl rfl rfl ⟨rfl, rfl⟩ rfl rfl rfl rfl⟩
  | close => exact ⟨[], .of_still rfl rfl rfl rfl ⟨rfl, rfl⟩ rfl rfl rfl rfl⟩
  | cancel => exact ⟨[], .of_still rfl rfl rfl rfl ⟨rfl, rfl⟩ rfl rfl rfl rfl⟩
  | pass => exact ⟨[], .of_still rfl rfl rfl rfl ⟨rfl, rfl⟩ rfl rfl rfl rfl⟩
  | listen waiting =>
    exact ⟨[], .of_still rfl rfl rfl rfl ⟨rfl, rfl⟩ rfl (held_setWorker_of_eq waiting rfl)
      (inHand_setWorker_of_eq waiting rfl) rfl⟩
  | receive listening next => exact ⟨_, .receive listening next⟩
  | @heed n listening =>
    exact ⟨[.workerDraining n], .of_still rfl rfl rfl rfl ⟨rfl, rfl⟩ rfl
      (held_setWorker_of_eq listening rfl) (inHand_setWorker_of_eq listening rfl) rfl⟩
  | leave listening ended => exact ⟨_, .leave listening ended⟩
  | normalise createdAt took holding => exact ⟨_, .normalise createdAt took holding⟩
  | hand handing => exact ⟨_, .hand handing⟩
  | drop handing => exact ⟨_, .drop handing _⟩
  | publisher change => exact ⟨_, .publisher coherent change⟩

/-- What has come in is in one place each after every step. -/
theorem Conserved.change [Repository σ] {s s' : State σ} {a : Action} (coherent : s.Coherent)
    (hc : s.Conserved) (h : s.Change a s') : s'.Conserved := by
  obtain ⟨notices, balance⟩ := h.balance coherent
  exact hc.of_balance balance

end State
end ProxyMeter.Pipeline
