import ProxyMeter.Pipeline.NormalizerPool
import ProxyMeter.Proofs.Pipeline.Counting

/-!
# What the workers hand over

A step of the workers makes one record at most and hands one over at most: it goes to the end of the
publisher's queue, or it is dropped. With one worker alone everything keeps its order.
-/

namespace ProxyMeter.Pipeline

open Calendar Store Traffic

/-- What is handed over to a queue in one step: nothing, a record that is put at the end, or one
that is refused. -/
inductive Queue.Handed (q : Queue Record) : (put dropped items : List Record) → Prop
  | nothing : q.Handed [] [] q.items
  | put (r : Record) (sink : q.hasSink = true) (room : q.items.length < q.capacity) :
      q.Handed [r] [] (q.items ++ [r])
  | drop (r : Record) {why : Refusal} (refused : q.offer r = .error why) : q.Handed [] [r] q.items

/-- What is put into a queue is at its end. -/
theorem Queue.Handed.items_eq {q : Queue Record} {put dropped items : List Record}
    (h : q.Handed put dropped items) : items = q.items ++ put := by
  cases h with
  | nothing | drop => exact (List.append_nil _).symm
  | put => rfl

/-- A queue does not hold more than its capacity. -/
theorem Queue.Handed.length_le {q : Queue Record} {put dropped items : List Record}
    (h : q.Handed put dropped items) (bounded : q.items.length ≤ q.capacity) :
    items.length ≤ q.capacity := by
  cases h with
  | nothing | drop => exact bounded
  | put r sink room =>
    rw [List.length_append]
    exact room

/-- A queue that somebody takes from refuses a record only if it is full, and one that is full takes
no record. -/
theorem Queue.Handed.full {q : Queue Record} {put dropped items : List Record}
    (h : q.Handed put dropped items) (sink : q.hasSink = true)
    (bounded : q.items.length ≤ q.capacity)
    (full : dropped ≠ [] ∨ q.items.length = q.capacity) : items.length = q.capacity := by
  cases h with
  | nothing => exact full.resolve_left (absurd rfl)
  | put r sink room => exact absurd (full.resolve_left (absurd rfl)) room.ne
  | drop r refused =>
    by_contra room
    rw [Queue.offer, if_pos sink, if_pos (by omega)] at refused
    cases refused

/-- The event that a worker holds and has not made a record of. -/
def Worker.event? (w : Worker) : Option Event :=
  match w.phase with
  | .holding e => some e
  | _ => none

/-- The record that a worker has not handed over. -/
def Worker.record? (w : Worker) : Option Record :=
  match w.phase with
  | .handing r => some r
  | _ => none

variable {σ : Type}

namespace State

/-- A step of the workers fills their queue and does nothing else to the publisher. -/
structure HandsOver (s s' : State σ) (put dropped : List Record) : Prop where
  queue : s.publisher.queue.Handed put dropped s'.publisher.queue.items
  dropped_eq : s'.dropped = s.dropped ++ dropped
  capacity : s'.publisher.queue.capacity = s.publisher.queue.capacity
  sink : s'.publisher.queue.hasSink = s.publisher.queue.hasSink
  batch : s'.publisher.batch = s.publisher.batch
  phase : s'.publisher.phase = s.publisher.phase
  stored_eq : s'.stored = s.stored
  lost_eq : s'.lost = s.lost

/-- Every step of the workers hands over one record at most. -/
theorem Change.handsOver [Repository σ] {s s' : State σ} {a : Action} (h : s.Change a s')
    (upstream : a.isUpstream = true) : ∃ put dropped, s.HandsOver s' put dropped := by
  have entries {α : Type} {kind : Notice → Option α} {notices : List Notice}
      (ledger : s'.notices = notices.reverse ++ s.notices) {new : List α}
      (found : notices.filterMap kind = new) :
      Notice.entries kind s'.notices = Notice.entries kind s.notices ++ new := by
    rw [ledger, Notice.entries_append, found]
  have still (notices : List Notice) (ledger : s'.notices = notices.reverse ++ s.notices)
      (noDrop : notices.filterMap Notice.dropped? = [])
      (noStore : notices.filterMap Notice.stored? = [])
      (noLoss : notices.filterMap Notice.lost? = [])
      (publisher : ∃ hasSource,
        s'.publisher = { s.publisher with queue := { s.publisher.queue with hasSource } }) :
      ∃ put dropped, s.HandsOver s' put dropped := by
    have stored := (entries ledger noStore).trans (List.append_nil _)
    have lost := (entries ledger noLoss).trans (List.append_nil _)
    obtain ⟨hasSource, publisher⟩ := publisher
    exact ⟨[], [], by rw [publisher]; exact .nothing, entries ledger noDrop, by rw [publisher],
      by rw [publisher], by rw [publisher], by rw [publisher], stored, lost⟩
  cases h with
  | take e => exact still [.collected e] rfl rfl rfl rfl ⟨_, rfl⟩
  | turnAway e => exact still [.turnedAway _ e] rfl rfl rfl rfl ⟨_, rfl⟩
  | heed => exact still [.workerDraining _] rfl rfl rfl rfl ⟨_, rfl⟩
  | leave => exact still [.workerGone _] (leave_notices _ _ _) rfl rfl rfl (leave_publisher _ _ _)
  | normalise createdAt took => exact still [.normalised _ took] rfl rfl rfl rfl ⟨_, rfl⟩
  | @hand n draining r handing sink room =>
    exact ⟨[r], [], .put r sink room, (List.append_nil _).symm, rfl, rfl, rfl, rfl, rfl, rfl⟩
  | @drop n draining r why handing refused =>
    have ledger : ((s.setWorker n ⟨.waiting, draining⟩).noting [.dropped why r]).notices =
        [.dropped why r].reverse ++ s.notices := rfl
    exact ⟨[], [r], .drop r refused, entries ledger rfl, rfl, rfl, rfl, rfl,
      (entries ledger rfl).trans (List.append_nil _),
      (entries ledger rfl).trans (List.append_nil _)⟩
  | publisher => cases upstream
  | _ => exact still [] rfl rfl rfl rfl ⟨_, rfl⟩

/-- Records that were made are in hand, were put into the queue, or were dropped, also after a step
of the workers. -/
theorem Balance.normalised_eq {s s' : State σ} {notices : List Notice} (h : s.Balance notices s')
    {put dropped : List Record} (hand : s.HandsOver s' put dropped) {before : List Record}
    (records : (s.normalised : Multiset Record) = s.inHand + before + s.dropped) :
    (s'.normalised : Multiset Record) = s'.inHand + (before ++ put : List Record) + s'.dropped := by
  have new {α : Type} {kind : Notice → Option α} {added : List α}
      (found : Notice.entries kind s'.notices = Notice.entries kind s.notices ++ added) :
      notices.filterMap kind = added := by
    rw [h.ledger, Notice.entries_append] at found
    exact List.append_cancel_left found
  have noStore : Notice.storedIn notices = 0 := by
    rw [Notice.storedIn, new (hand.stored_eq.trans (List.append_nil _).symm)]
    rfl
  have noLoss : Notice.lostIn notices = 0 := by
    rw [Notice.lostIn, new (hand.lost_eq.trans (List.append_nil _).symm)]
    rfl
  have stock : s'.publisher.stock = s.publisher.stock + put := by
    rw [Publisher.stock, Publisher.stock, hand.batch, hand.phase, hand.queue.items_eq,
      ← Multiset.coe_add]
    abel
  have moved := h.records
  rw [new hand.dropped_eq, noStore, noLoss, stock] at moved
  have made : (s'.normalised : Multiset Record) =
      s.normalised + notices.filterMap Notice.normalised? := by
    rw [normalised, h.ledger, Notice.entries_append, ← Multiset.coe_add]
    rfl
  apply add_right_cancel (b := s.publisher.stock)
  calc (s'.normalised : Multiset Record) + s.publisher.stock
      = before + s.dropped +
          (notices.filterMap Notice.normalised? + s.inHand + s.publisher.stock) := by
        rw [made, records]
        abel
    _ = _ := by
        rw [moved, hand.dropped_eq, ← Multiset.coe_add, ← Multiset.coe_add]
        abel

/-- A step neither adds nor removes a worker. -/
theorem Change.length_workers [Repository σ] {s s' : State σ} {a : Action} (h : s.Change a s') :
    s'.workers.length = s.workers.length := by
  cases h with
  | listen | receive | heed | normalise | hand | drop => exact List.length_set
  | leave =>
    rw [leave_workers]
    exact List.length_set
  | _ => rfl

/-- Each record is made by one worker. -/
theorem Change.madeBy_eq [Repository σ] {s s' : State σ} {a : Action} (h : s.Change a s')
    (upstream : a.isUpstream = true) :
    s'.normalised = s.normalised ++ (s'.madeBy a).map Prod.snd ∧
      ∀ m ∈ s'.madeBy a, m.1 < s.workers.length := by
  have still (notices : List Notice) (ledger : s'.notices = notices.reverse ++ s.notices)
      (none : notices.filterMap Notice.normalised? = []) (nothing : s'.madeBy a = []) :
      s'.normalised = s.normalised ++ (s'.madeBy a).map Prod.snd ∧
        ∀ m ∈ s'.madeBy a, m.1 < s.workers.length := by
    rw [nothing, normalised, ledger, Notice.entries_append, none]
    exact ⟨rfl, List.forall_mem_nil _⟩
  cases h with
  | take e => exact still [.collected e] rfl rfl rfl
  | turnAway e => exact still [.turnedAway _ e] rfl rfl rfl
  | heed => exact still [.workerDraining _] rfl rfl rfl
  | leave => exact still [.workerGone _] (leave_notices _ _ _) rfl rfl
  | @normalise n draining e createdAt took holding =>
    have made : ((s.setWorker n ⟨.handing ⟨e, createdAt⟩, draining⟩).noting
        [.normalised ⟨e, createdAt⟩ took]).madeBy (.normalise n createdAt took) =
          [(n, ⟨e, createdAt⟩)] := by
      have found := getElem?_setWorker holding ⟨.handing ⟨e, createdAt⟩, draining⟩
      simp only [madeBy, noting, found]
    rw [made]
    refine ⟨Notice.entries_append _ [.normalised _ took] _, ?_⟩
    rintro m member
    cases List.mem_singleton.mp member
    exact (List.getElem?_eq_some_iff.mp holding).1
  | drop => exact still [.dropped _ _] rfl rfl rfl
  | publisher => cases upstream
  | _ => exact still [] rfl rfl rfl

theorem taken_noting (notices : List Notice) (s : State σ) :
    (s.noting notices).taken = s.taken ++ notices.filterMap Notice.taken? :=
  Notice.entries_append _ _ _

theorem normalised_noting (notices : List Notice) (s : State σ) :
    (s.noting notices).normalised = s.normalised ++ notices.filterMap Notice.normalised? :=
  Notice.entries_append _ _ _

/-- With one worker alone events are normalised, and records put into the queue, in the order in
which the events were taken. -/
structure InOrder (s : State σ) (w : Worker) (put : List Record) : Prop where
  alone : s.workers = [w]
  events : s.taken = s.normalised.map Record.event ++ w.event?.toList ++ s.input.items
  records : (put ++ w.record?.toList).Sublist s.normalised

/-- The worker in any place is the one that is alone. -/
theorem InOrder.eq_of_getElem? {s : State σ} {w w' : Worker} {put : List Record} {n : Nat}
    (h : s.InOrder w put) (found : s.workers[n]? = some w') : n = 0 ∧ w = w' := by
  rw [h.alone, List.getElem?_singleton] at found
  split at found
  · next first => exact ⟨first, Option.some.inj found⟩
  · cases found

/-- A step that neither takes an event nor makes a record keeps the order, if the worker holds what
it held and has in hand what it had. -/
theorem InOrder.of_still {s s' : State σ} {w w' : Worker} {put : List Record} (h : s.InOrder w put)
    (notices : List Notice) (ledger : s'.notices = notices.reverse ++ s.notices)
    (noEvent : notices.filterMap Notice.taken? = [])
    (noRecord : notices.filterMap Notice.normalised? = []) (alone : s'.workers = [w'])
    (event : w'.event? = w.event?) (record : w'.record?.toList.Sublist w.record?.toList)
    (items : s'.input.items = s.input.items) : s'.InOrder w' put := by
  have taken : s'.taken = s.taken := by
    rw [State.taken, ledger, Notice.entries_append, noEvent]
    exact List.append_nil _
  have normalised : s'.normalised = s.normalised := by
    rw [State.normalised, ledger, Notice.entries_append, noRecord]
    exact List.append_nil _
  refine ⟨alone, ?_, ?_⟩
  · rw [taken, normalised, event, items]
    exact h.events
  · rw [normalised]
    exact ((List.Sublist.refl put).append record).trans h.records

/-- Every step keeps the order. -/
theorem InOrder.change [Repository σ] {s s' : State σ} {a : Action} {w : Worker}
    {put new : List Record} (h : s.InOrder w put) (change : s.Change a s')
    (upstream : a.isUpstream = true)
    (queue : s'.publisher.queue.items = s.publisher.queue.items ++ new) :
    ∃ w', s'.InOrder w' (put ++ new) := by
  have silent (same : s'.publisher.queue.items = s.publisher.queue.items) : put ++ new = put := by
    rw [same] at queue
    rw [List.self_eq_append_right.mp queue, List.append_nil]
  -- A step of any worker is a step of this one.
  have set {n : Nat} {w₀ w' : Worker} (found : s.workers[n]? = some w₀) :
      s.workers.set n w' = [w'] := by
    rw [(h.eq_of_getElem? found).1, h.alone]
    rfl
  cases change with
  | take e =>
    rw [silent rfl]
    refine ⟨w, h.alone, ?_, ?_⟩
    · rw [taken_noting, normalised_noting]
      show s.taken ++ [e] = (s.normalised ++ []).map Record.event ++ w.event?.toList ++
        (s.input.items ++ [e])
      rw [h.events, List.append_nil, List.append_assoc]
    · rw [normalised_noting]
      exact h.records.trans (List.sublist_append_left _ _)
  | turnAway e =>
    rw [silent rfl]
    exact ⟨w, h.of_still [.turnedAway _ e] rfl rfl rfl h.alone rfl (.refl _) rfl⟩
  | close | cancel | pass =>
    rw [silent rfl]
    exact ⟨w, h.of_still [] rfl rfl rfl h.alone rfl (.refl _) rfl⟩
  | listen found =>
    obtain ⟨-, rfl⟩ := h.eq_of_getElem? found
    rw [silent rfl]
    exact ⟨_, h.of_still [] rfl rfl rfl (set found) rfl (.refl _) rfl⟩
  | @receive n draining e rest found next =>
    obtain ⟨-, rfl⟩ := h.eq_of_getElem? found
    rw [silent rfl]
    refine ⟨_, set found, ?_, h.records⟩
    calc s.taken = s.normalised.map Record.event ++ [] ++ s.input.items := h.events
      _ = s.normalised.map Record.event ++ [e] ++ rest := by
        rw [next, List.append_nil, List.append_assoc]
        rfl
  | heed found =>
    obtain ⟨-, rfl⟩ := h.eq_of_getElem? found
    rw [silent rfl]
    exact ⟨_, h.of_still [.workerDraining _] rfl rfl rfl (set found) rfl (.refl _) rfl⟩
  | @leave n draining found ended =>
    obtain ⟨first, rfl⟩ := h.eq_of_getElem? found
    obtain ⟨items, -⟩ := (Queue.ended_iff _).mp ended
    have publisher : (s.leave n ⟨.listening, draining⟩).publisher.queue.items =
        s.publisher.queue.items := by
      obtain ⟨hasSource, same⟩ := s.leave_publisher n ⟨.listening, draining⟩
      rw [same]
    have workers : (s.leave n ⟨.listening, draining⟩).workers = [⟨.gone, draining⟩] :=
      (leave_workers _ _ _).trans (set found)
    have input : (s.leave n ⟨.listening, draining⟩).input.items = s.input.items := by
      unfold State.leave
      dsimp only
      split
      · exact items.symm
      · rfl
    rw [silent publisher]
    exact ⟨_, h.of_still [.workerGone n] (leave_notices _ _ _) rfl rfl workers rfl (.refl _) input⟩
  | @normalise n draining e createdAt took found =>
    obtain ⟨-, rfl⟩ := h.eq_of_getElem? found
    rw [silent rfl]
    refine ⟨_, set found, ?_, ?_⟩
    · rw [taken_noting, normalised_noting]
      show s.taken ++ [] = (s.normalised ++ [Record.mk e createdAt]).map Record.event ++ [] ++
        s.input.items
      rw [List.map_append, List.append_nil, List.append_nil]
      exact h.events
    · rw [normalised_noting]
      exact ((List.sublist_append_left put _).trans h.records).append (.refl _)
  | @hand n draining r found =>
    obtain ⟨-, rfl⟩ := h.eq_of_getElem? found
    obtain rfl : [r] = new := List.append_cancel_left queue
    refine ⟨_, set found, h.events, ?_⟩
    show ((put ++ [r]) ++ []).Sublist s.normalised
    rw [List.append_nil]
    exact h.records
  | drop found =>
    obtain ⟨-, rfl⟩ := h.eq_of_getElem? found
    rw [silent rfl]
    exact ⟨_, h.of_still [.dropped _ _] rfl rfl rfl (set found) rfl (List.nil_sublist _) rfl⟩
  | publisher => cases upstream

end State
end ProxyMeter.Pipeline
