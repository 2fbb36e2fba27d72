import ProxyMeter.Proofs.Pipeline.Collecting

/-!
# A collector from its first call to its end

In every run of a collector the receiver gets the events that were taken, in the order in which they
were, each call is counted once, and nothing is taken after the collector has been closed. The
receiver then gets what is left, and sees the end after that and not before.
-/

namespace ProxyMeter.Pipeline

open Metrics Traffic

namespace Call

/-- A call that does not rely on the sender has been counted if its event was taken. -/
theorem countedIn_eq {c : Call} (h : c.relies = false) : c.countedIn = c.taken?.isSome := by
  obtain ⟨clone, event, stage⟩ := c
  cases stage with
  | answered answer =>
    cases answer with
    | collected e => cases h
    | _ => rfl
  | _ => rfl

/-- A call that is over relies on nothing. -/
theorem relies_of_isOver {c : Call} (ended : c.isOver = true) : c.relies = false := by
  obtain ⟨clone, event, stage⟩ := c
  cases stage with
  | finished answer => rfl
  | _ => cases ended

/-- A call that is over has been counted once: as taken, or as turned away. -/
theorem countedIn_of_isOver {clones : List Bool} {source : Bool} {c : Call}
    (fits : c.Fits clones source) (ended : c.isOver = true) : c.countedIn = !c.countedOut := by
  obtain ⟨clone, event, stage⟩ := c
  cases stage with
  | finished answer =>
    have own : answer = .collected event ∨ ∃ why, answer = .turnedAway why event :=
      fits.own answer rfl
    obtain rfl | ⟨why, rfl⟩ := own <;> rfl
  | _ => cases ended

end Call

namespace SharedCollector

/-- A call that has not come to its end can take its next step, whatever the others do. -/
theorem exists_proceed {s : SharedCollector} {n : Nat} {c : Call} (found : s.calls[n]? = some c)
    (going : c.isOver = false) : ∃ s' c', s.step (.proceed n) = some s' ∧
      s'.calls[n]? = some c' ∧ c'.left < c.left := by
  have inRange : n < s.calls.length := (List.getElem?_eq_some_iff.mp found).1
  have moves (s₀ : SharedCollector) (stage : Call.Stage) (calls : s₀.calls = s.calls)
      (step : s.proceed n c = some (s₀.setStage n c stage))
      (less : Call.left { c with stage } < c.left) : ∃ s' c', s.step (.proceed n) = some s' ∧
        s'.calls[n]? = some c' ∧ c'.left < c.left := by
    refine ⟨_, _, (congrArg (·.bind fun c => s.proceed n c) found).trans step, ?_, less⟩
    rw [setStage, calls]
    exact List.getElem?_set_self inRange
  cases stage : c.stage with
  | waiting => exact moves s .inside rfl (by rw [proceed, stage]) (by simp [Call.left, stage])
  | inside =>
    by_cases source : s.queue.hasSource = true
    · exact moves s .sending rfl (by simp [proceed, stage, source]) (by simp [Call.left, stage])
    · exact moves s (.answered (.turnedAway .closed c.event)) rfl
        (by simp [proceed, stage, source]) (by simp [Call.left, stage])
  | sending =>
    exact moves
      { s with
        queue := (Collector.send c.event s.queue).2
        accepted := s.accepted ++ (Collector.send c.event s.queue).1.taken?.toList }
      (.answered (Collector.send c.event s.queue).1) rfl (by rw [proceed, stage])
      (by simp [Call.left, stage])
  | answered answer =>
    exact moves { s with notices := answer :: s.notices } (.counted answer) rfl
      (by rw [proceed, stage]) (by simp [Call.left, stage])
  | counted answer =>
    exact moves s (.finished answer) rfl (by rw [proceed, stage]) (by simp [Call.left, stage])
  | finished answer =>
    rw [Call.isOver, stage] at going
    cases going

/-- Every call can be brought to its end without waiting for anything. -/
theorem exists_run_over {s : SharedCollector} {n : Nat} {c : Call} (found : s.calls[n]? = some c) :
    ∃ steps ≤ c.left, ∃ s' c', s.run (List.replicate steps (.proceed n)) = some s' ∧
      s'.calls[n]? = some c' ∧ c'.isOver = true := by
  induction most : c.left using Nat.strong_induction_on generalizing s c with
  | _ most' ih =>
    cases going : c.isOver with
    | true => exact ⟨0, Nat.zero_le _, s, c, rfl, found, going⟩
    | false =>
      obtain ⟨s₁, c₁, step, found₁, less⟩ := exists_proceed found going
      obtain ⟨steps, bound, s', c', run, found', ended⟩ := ih c₁.left (most ▸ less) found₁ rfl
      refine ⟨steps + 1, by omega, s', c', ?_, found', ended⟩
      rw [List.replicate_succ, SharedCollector.run, List.foldlM_cons, step]
      exact run

/-- What all counted answers add is the number of calls for which they add one. -/
theorem Accounts.sum_notices {s : SharedCollector} (h : s.Accounts) {weight : Notice → Nat}
    {p : Call → Bool} (one : ∀ c, (c.counted?.map weight).getD 0 = if p c then 1 else 0) :
    (s.notices.map weight).sum = s.calls.countP p := by
  rw [← ((Multiset.coe_eq_coe.mp h.counted).map weight).sum_nat]
  induction s.calls with
  | nil => rfl
  | cons c calls ih =>
    have here := one c
    rw [List.countP_cons, ← here, ← ih, List.filterMap_cons]
    cases c.counted? with
    | none => rfl
    | some answer => exact Nat.add_comm _ _

/-- The counter of events that were taken grows by one with each call that counts one. -/
theorem Accounts.counter_eq {s : SharedCollector} (h : s.Accounts) (before : Metrics) :
    (s.metrics before).counter .eventsCollected =
      before.counter .eventsCollected + .ofNat (s.calls.countP Call.countedIn) := by
  rw [metrics, Notice.counter_foldr, h.sum_notices (p := Call.countedIn) fun c => ?_]
  unfold Call.countedIn
  cases c.counted? with
  | none => rfl
  | some answer => cases answer <;> rfl

/-- The counter of events that the input dropped grows by one with each call that counts one. -/
theorem Accounts.dropped_eq {s : SharedCollector} (h : s.Accounts) (before : Metrics) :
    (s.metrics before).dropped .collector =
      before.dropped .collector + .ofNat (s.calls.countP Call.countedOut) := by
  rw [metrics, Notice.dropped_foldr, h.sum_notices (p := Call.countedOut) fun c => ?_]
  unfold Call.countedOut
  cases c.counted? with
  | none => rfl
  | some answer => cases answer <;> rfl

/-- The calls whose events were taken are as many as these events. -/
theorem Accounts.countP_taken {s : SharedCollector} (h : s.Accounts) :
    s.calls.countP (·.taken?.isSome) = s.accepted.length := by
  rw [← List.length_filterMap_eq_countP, (Multiset.coe_eq_coe.mp h.taken).length_eq]

/-- If no call relies on the sender, the counter shows how many events were taken. -/
theorem Accounts.counter_eq_accepted {s : SharedCollector} (h : s.Accounts) (before : Metrics)
    (still : ∀ c ∈ s.calls, c.relies = false) :
    (s.metrics before).counter .eventsCollected =
      before.counter .eventsCollected + .ofNat s.accepted.length := by
  rw [h.counter_eq, ← h.countP_taken, List.countP_congr fun c member => ?_]
  rw [Call.countedIn_eq (still c member)]

/-- What becomes of a collector after it has been closed: nothing is taken any more, and the
receiver gets one event with each step until none is left. -/
structure Sealed (s : SharedCollector) (more : List Action) (s' : SharedCollector) : Prop where
  accepted : s'.accepted = s.accepted
  isClosed? : ∀ k, s'.clones[k]? = some true → s'.isClosed? k = some true
  received : s'.queue.hasSink = true → s'.received =
    s.accepted.take (s.received.length + more.countP Action.isReceive)
  /-- The end is seen by the first who asks after the last event, and not before. -/
  sawEnd_iff : s'.queue.hasSink = true →
    (s'.sawEnd = true ↔ s.sawEnd = true ∨ s.queue.items.length < more.countP Action.isReceive)
  /-- The receiver does not have to wait. -/
  receives : s'.queue.hasSink = true → ∃ s'', s'.step .receive = some s''

/-- What the receiver has got, in numbers. -/
structure Drained (s : SharedCollector) (more : List Action) (s' : SharedCollector) : Prop where
  accepted : s'.accepted = s.accepted
  length : s'.queue.hasSink = true → s'.received.length =
    min (s.received.length + more.countP Action.isReceive) s.accepted.length
  sawEnd_iff : s'.queue.hasSink = true → (s'.sawEnd = true ↔ s.sawEnd = true ∨
    s.accepted.length < s.received.length + more.countP Action.isReceive)

/-- A step of a closed collector takes nothing, and gives out one event to a receiver who asks. -/
theorem Drained.change {capacity : Nat} {s s₁ s' : SharedCollector} {more : List Action}
    {a : Action} (h : s.Drained more s₁) (flow : s₁.Flow capacity) (fitting : s₁.Fitting)
    (gone : s₁.queue.hasSource = false) (change : s₁.Change a s') : s.Drained (more ++ [a]) s' := by
  obtain ⟨accepted, length, sawEnd_iff⟩ := h
  have still (quiet : a.isReceive = false) (accepted' : s'.accepted = s₁.accepted)
      (received : s'.received = s₁.received) (sawEnd : s'.sawEnd = s₁.sawEnd)
      (sink : s'.queue.hasSink = true → s₁.queue.hasSink = true) :
      s.Drained (more ++ [a]) s' := by
    have count : (more ++ [a]).countP Action.isReceive = more.countP Action.isReceive := by
      rw [List.countP_append, List.countP_singleton, quiet]
      rfl
    refine ⟨accepted'.trans accepted, fun kept => ?_, fun kept => ?_⟩
    · rw [count, received]
      exact length (sink kept)
    · rw [count, sawEnd]
      exact sawEnd_iff (sink kept)
  have one : (more ++ [Action.receive]).countP Action.isReceive =
      more.countP Action.isReceive + 1 := by
    rw [List.countP_append]
    rfl
  cases change with
  | @drop k =>
    refine still rfl rfl rfl rfl fun kept => ?_
    rw [queue_drop] at kept
    split at kept <;> exact kept
  | @take n c found stage =>
    have source := (fitting n c found).sender (by rw [Call.relies, stage])
    rw [gone] at source
    cases source
  | @receive e rest sink next =>
    have before := length sink
    have whole := congrArg List.length (flow.fifo sink)
    rw [next, accepted, List.length_append, List.length_cons] at whole
    refine ⟨accepted, fun _ => ?_, fun _ => ?_⟩
    · rw [one, List.length_append, List.length_singleton]
      omega
    · rw [one]
      refine (sawEnd_iff sink).trans (or_congr_right ?_)
      omega
  | finish sink ended =>
    have before := length sink
    have whole := congrArg List.length (flow.fifo sink)
    rw [((Queue.ended_iff _).mp ended).1, accepted, List.append_nil] at whole
    refine ⟨accepted, fun _ => ?_, fun _ => ?_⟩
    · rw [one]
      show s₁.received.length = _
      omega
    · rw [one]
      refine iff_of_true rfl (.inr ?_)
      omega
  | abandon => exact still rfl rfl rfl rfl fun kept => (Bool.false_ne_true kept).elim
  | _ => exact still rfl rfl rfl rfl id

/-- A collector that has been closed stays so, and is drained by its receiver. -/
theorem Sound.sealed {capacity : Nat} {done more : List Action} {s s' : SharedCollector}
    (h : s.Sound capacity done) (shut : closed done = true) (run : s.run more = some s') :
    s.Sealed more s' := by
  have stays (more : List Action) : closed (done ++ more) = true := by
    rw [closed, List.any_append]
    exact Bool.or_eq_true_iff.mpr (.inl shut)
  have begun : s.Drained [] s := by
    have least := h.flow.beginning.length_le
    refine ⟨rfl, fun _ => (Nat.min_eq_left least).symm, fun _ => ⟨.inl, ?_⟩⟩
    exact fun seen => seen.resolve_right least.not_gt
  obtain ⟨sound, drained⟩ : s'.Sound capacity (done ++ more) ∧ s.Drained more s' := by
    refine run_induction (P := fun more s' => s'.Sound capacity (done ++ more) ∧ s.Drained more s')
      ⟨(List.append_nil done).symm ▸ h, begun⟩ ?_ run
    rintro more s₁ a s₂ - ⟨sound, drained⟩ step
    have gone := sound.past.hasSource_of_closed (stays more)
    refine ⟨?_, drained.change sound.flow sound.fitting gone (Change.of_step step)⟩
    rw [← List.append_assoc]
    exact sound.step step
  have gone := sound.past.hasSource_of_closed (stays more)
  have kept (sink : s'.queue.hasSink = true) : s.queue.hasSink = true := by
    rw [sound.past.sink, abandoned, List.any_append] at sink
    rw [h.past.sink, abandoned]
    cases past : done.any Action.isAbandon with
    | false => rfl
    | true =>
      rw [past] at sink
      cases sink
  refine ⟨drained.accepted, fun k held => ?_, fun sink => ?_, fun sink => ?_, fun sink => ?_⟩
  · rw [sound.past.isClosed?_eq held, stays]
  · rw [List.prefix_iff_eq_take.mp sound.flow.beginning, drained.accepted, drained.length sink]
    exact List.take_eq_take_iff.mpr (by omega)
  · refine (drained.sawEnd_iff sink).trans (or_congr_right ?_)
    have whole := congrArg List.length (h.flow.fifo (kept sink))
    rw [List.length_append] at whole
    omega
  · rw [SharedCollector.step, if_pos sink, SharedCollector.receive, Queue.take?]
    cases items : s'.queue.items with
    | nil =>
      have ended : s'.queue.ended = true := (Queue.ended_iff _).mpr ⟨items, gone⟩
      exact ⟨_, if_pos ended⟩
    | cons e rest => exact ⟨_, rfl⟩

/-- A collector in order, after some steps. Its metrics were `before` when it was new. -/
structure Orderly (capacity : Nat) (before : Metrics) (done : List Action) (s : SharedCollector) :
    Prop where
  hasSink_eq : s.queue.hasSink = !abandoned done
  /-- While the receiver is there, what it has received and what waits is what was taken, in the
  order in which it was. -/
  fifo : s.queue.hasSink = true → s.received ++ s.queue.items = s.accepted
  beginning : s.received <+: s.accepted
  room : s.queue.items.length ≤ capacity
  /-- The step with which a call gets its answer. -/
  answered : ∀ n c c' s' answer, s.calls[n]? = some c → c.answer? = none →
    s.step (.proceed n) = some s' → s'.calls[n]? = some c' → c'.answer? = some answer →
    s.Answered capacity done s' c.event answer
  /-- No call has to wait for another. -/
  ends : ∀ n c, s.calls[n]? = some c → ∃ steps ≤ c.left, ∃ s' c',
    s.run (List.replicate steps (.proceed n)) = some s' ∧ s'.calls[n]? = some c' ∧
      c'.isOver = true
  /-- The events that were taken are those of the calls that were told so. -/
  taken : (s.calls.filterMap Call.taken?).Perm s.accepted
  collected : (s.metrics before).counter .eventsCollected =
    before.counter .eventsCollected + .ofNat (s.calls.countP Call.countedIn)
  dropped : (s.metrics before).dropped .collector =
    before.dropped .collector + .ofNat (s.calls.countP Call.countedOut)
  /-- A call that is over has been counted in one place and not in the other. -/
  once : ∀ c ∈ s.calls, c.isOver = true → c.countedIn = !c.countedOut
  /-- When all calls are over the counters show how many events were taken, and how many not. -/
  settled : (∀ c ∈ s.calls, c.isOver = true) → ∃ turned,
    s.accepted.length + turned = s.calls.length ∧
    (s.metrics before).counter .eventsCollected =
      before.counter .eventsCollected + .ofNat s.accepted.length ∧
    (s.metrics before).dropped .collector = before.dropped .collector + .ofNat turned
  /-- Every clone knows whether one of them has closed the collector. -/
  isClosed?_eq : ∀ k, s.clones[k]? = some true → s.isClosed? k = some (closed done)
  /-- When the collector is closed, all that was taken has been counted, even while calls are
  inside. -/
  counted : closed done = true → (s.metrics before).counter .eventsCollected =
    before.counter .eventsCollected + .ofNat s.accepted.length
  /-- The receiver sees the end after all events, and not while one can come. -/
  ended : s.sawEnd = true → (closed done = true ∨ ∀ held ∈ s.clones, held = false) ∧
    s.received = s.accepted
  closed_for_good : closed done = true → ∀ more s', s.run more = some s' → s.Sealed more s'

/-- However the calls of its clones are mixed with each other, with closing, and with what the
receiver does, a collector is in order. -/
theorem run_orderly {capacity : Nat} {actions : List Action} {s : SharedCollector}
    (run : (start capacity).run actions = some s) (before : Metrics) :
    s.Orderly capacity before actions := by
  have sound := run_sound run
  have fits (c : Call) (member : c ∈ s.calls) : c.Fits s.clones s.queue.hasSource := by
    obtain ⟨n, found⟩ := List.mem_iff_getElem?.mp member
    exact sound.fitting n c found
  exact {
    hasSink_eq := sound.past.sink
    fifo := sound.flow.fifo
    beginning := sound.flow.beginning
    room := sound.flow.room
    answered := fun _ _ _ _ _ found before step found' after =>
      sound.answered found before step found' after
    ends := fun _ _ found => exists_run_over found
    taken := Multiset.coe_eq_coe.mp sound.accounts.taken
    collected := sound.accounts.counter_eq before
    dropped := sound.accounts.dropped_eq before
    once := fun c member ended => Call.countedIn_of_isOver (fits c member) ended
    settled := by
      intro ended
      refine ⟨s.calls.countP Call.countedOut, ?_, ?_, sound.accounts.dropped_eq before⟩
      · rw [← sound.accounts.countP_taken,
          List.length_eq_countP_add_countP (p := (·.taken?.isSome)) (l := s.calls)]
        refine congrArg _ (List.countP_congr fun c member => ?_)
        have once := Call.countedIn_of_isOver (fits c member) (ended c member)
        rw [Call.countedIn_eq (Call.relies_of_isOver (ended c member))] at once
        rw [once]
        simp
      · exact sound.accounts.counter_eq_accepted before
          fun c member => Call.relies_of_isOver (ended c member)
    isClosed?_eq := fun _ held => sound.past.isClosed?_eq held
    counted := by
      intro shut
      refine sound.accounts.counter_eq_accepted before fun c member => ?_
      rw [← Bool.not_eq_true]
      intro relies
      have source := (fits c member).sender relies
      rw [sound.past.hasSource_of_closed shut] at source
      cases source
    ended := by
      intro seen
      obtain ⟨gone, all⟩ := sound.flow.ended seen
      refine ⟨?_, all⟩
      rw [sound.past.source] at gone
      cases shut : closed actions with
      | true => exact .inl rfl
      | false =>
        rw [shut] at gone
        exact .inr fun held member => Bool.eq_false_iff.mpr (List.any_eq_false.mp gone held member)
    closed_for_good := fun shut _ _ run => sound.sealed shut run }

private def eventFrom (port : UInt16) : Event :=
  { sourceIp := "10.0.0.7", destinationIp := "192.0.2.1", domain := "a.example", port
    timestamp := ⟨5, 0⟩, latencyMs := 3, bytesIn := 40, bytesOut := 2, transport := transportTcp }

private def mixedCalls : List Action :=
  [.clone 0, .call 0 (eventFrom 1), .call 1 (eventFrom 2), .proceed 0, .proceed 1, .proceed 0,
    .proceed 1, .proceed 1, .proceed 0, .proceed 0, .proceed 1, .proceed 0, .proceed 1,
    .call 0 (eventFrom 3), .close 1, .proceed 2, .proceed 2, .proceed 2, .receive, .proceed 2,
    .receive]

/-- Two calls are inside at once, and the later one gets the only place. A third one has begun when
the other clone closes the collector. -/
theorem run_orderly_mixed : ∃ s : SharedCollector, (start 1).run mixedCalls = some s ∧
    s.received = [eventFrom 2] ∧ s.sawEnd = true ∧
    s.calls.map Call.countedIn = [false, true, false] ∧ s.Orderly 1 {} mixedCalls := by
  obtain ⟨s, run, received, seen, counted⟩ : ∃ s : SharedCollector,
      (start 1).run mixedCalls = some s ∧ s.received = [eventFrom 2] ∧ s.sawEnd = true ∧
      s.calls.map Call.countedIn = [false, true, false] :=
    ⟨_, rfl, rfl, rfl, rfl⟩
  exact ⟨s, run, received, seen, counted, run_orderly run {}⟩

end SharedCollector
end ProxyMeter.Pipeline
