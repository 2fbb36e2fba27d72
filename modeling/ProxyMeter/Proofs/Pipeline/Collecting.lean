import ProxyMeter.Proofs.Pipeline.Sharing

/-!
# What a collector keeps

A call that has seen the sender can rely on it until its answer has been counted, since it holds the
lock. So each call is answered as if it had come alone, and whatever was taken has been counted when
the collector is closed.
-/

namespace ProxyMeter.Pipeline

open Metrics Traffic

namespace Call

/-- Whether the call needs the sender to be there: it is about to send, or its event was taken and
has not been counted. -/
def relies (c : Call) : Bool :=
  match c.stage with
  | .sending | .answered (.collected _) => true
  | _ => false

/-- A call that relies on the sender holds the lock. -/
theorem isInside_of_relies {c : Call} (h : c.relies = true) : c.isInside = true := by
  unfold relies at h
  unfold isInside
  split at h <;> simp_all

/-- A call that holds the lock has not come to its end. -/
theorem isOver_of_isInside {c : Call} (h : c.isInside = true) : c.isOver = false := by
  unfold isInside at h
  unfold isOver
  split <;> simp_all

/-- What holds of a call while others use the collector. -/
structure Fits (clones : List Bool) (source : Bool) (c : Call) : Prop where
  /-- A clone is held while it is in use. -/
  held : c.isOver = false → clones[c.clone]? = some true
  /-- Nobody takes the sender from a call that relies on it. -/
  sender : c.relies = true → source = true
  /-- The answer is about the event of the call. -/
  own : ∀ answer, c.answer? = some answer →
    answer = .collected c.event ∨ ∃ why, answer = .turnedAway why c.event

end Call

namespace SharedCollector

/-- Whether the collector has been closed. -/
def closed (done : List Action) : Bool := done.any Action.isClose

/-- Whether the receiver has been given up. -/
def abandoned (done : List Action) : Bool := done.any Action.isAbandon

/-- All calls fit. -/
def Fitting (s : SharedCollector) : Prop :=
  ∀ (n : Nat) (c : Call), s.calls[n]? = some c → c.Fits s.clones s.queue.hasSource

/-- A call that goes on still fits, if it may rely on the sender and its answer is its own. -/
theorem Fitting.setStage {s : SharedCollector} (h : s.Fitting) {n : Nat} {c : Call}
    {stage : Call.Stage} (found : s.calls[n]? = some c) (going : c.isOver = false)
    (sender : Call.relies { c with stage } = true → s.queue.hasSource = true)
    (own : ∀ answer, Call.answer? { c with stage } = some answer →
      answer = .collected c.event ∨ ∃ why, answer = .turnedAway why c.event) :
    (s.setStage n c stage).Fitting :=
  forall_getElem?_set h ⟨fun _ => (h n c found).held going, sender, own⟩

theorem any_of_held {clones : List Bool} {k : Nat} (held : clones[k]? = some true) :
    clones.any id = true :=
  List.any_eq_true.mpr ⟨true, List.mem_of_getElem? held, rfl⟩

/-- Every step leaves all calls fitting. -/
theorem Fitting.change {s s' : SharedCollector} {a : Action} (h : s.Fitting)
    (change : s.Change a s') : s'.Fitting := by
  cases change with
  | clone held =>
    intro n c found
    refine ⟨fun going => ?_, (h n c found).sender, (h n c found).own⟩
    have held := (h n c found).held going
    exact (List.getElem?_append_left (List.getElem?_eq_some_iff.mp held).1).trans held
  | @drop k held idle =>
    intro n c found
    have kept (going : c.isOver = false) : (s.clones.set k false)[c.clone]? = some true := by
      rw [List.getElem?_set_ne (idle c (List.mem_of_getElem? found) going).symm]
      exact (h n c found).held going
    refine ⟨kept, fun relies => ?_, (h n c found).own⟩
    have others := any_of_held (kept (Call.isOver_of_isInside (Call.isInside_of_relies relies)))
    rw [queue_drop, if_pos others]
    exact (h n c found).sender relies
  | call e held =>
    exact forall_getElem?_append h ⟨fun _ => held, nofun, fun _ answered => nomatch answered⟩
  | enter found stage =>
    exact h.setStage found (by rw [Call.isOver, stage]) nofun fun _ answered => nomatch answered
  | look found stage source =>
    exact h.setStage found (by rw [Call.isOver, stage]) (fun _ => source)
      fun _ answered => nomatch answered
  | refuse found stage =>
    refine h.setStage found (by rw [Call.isOver, stage]) nofun ?_
    rintro _ ⟨⟩
    exact .inr ⟨_, rfl⟩
  | @take n c found stage =>
    have source := (h n c found).sender (by rw [Call.relies, stage])
    refine Fitting.setStage h found (by rw [Call.isOver, stage]) (fun _ => source) ?_
    rintro _ ⟨⟩
    exact .inl rfl
  | fail found stage =>
    refine h.setStage found (by rw [Call.isOver, stage]) nofun ?_
    rintro _ ⟨⟩
    exact .inr ⟨_, rfl⟩
  | @count n c answer found stage =>
    refine Fitting.setStage h found (by rw [Call.isOver, stage]) nofun fun answer' same => ?_
    exact (h n c found).own answer' (by rw [Call.answer?, stage]; exact same)
  | @leave n c answer found stage =>
    refine h.setStage found (by rw [Call.isOver, stage]) nofun fun answer' same => ?_
    exact (h n c found).own answer' (by rw [Call.answer?, stage]; exact same)
  | close held free =>
    intro n c found
    refine ⟨(h n c found).held, fun relies => ?_, (h n c found).own⟩
    have outside := free c (List.mem_of_getElem? found)
    rw [Call.isInside_of_relies relies] at outside
    cases outside
  | receive | finish | abandon => exact h

/-- Whose ends of the queue are still held, after what has happened. -/
structure Past (done : List Action) (s : SharedCollector) : Prop where
  source : s.queue.hasSource = (!closed done && s.clones.any id)
  sink : s.queue.hasSink = !abandoned done

/-- Every step leaves the ends as they are that it does not give up. -/
theorem Past.change {done : List Action} {s s' : SharedCollector} {a : Action} (h : s.Past done)
    (change : s.Change a s') : s'.Past (done ++ [a]) := by
  obtain ⟨source, sink⟩ := h
  have still (noClose : a.isClose = false) (noAbandon : a.isAbandon = false)
      (source' : s'.queue.hasSource = (!closed done && s'.clones.any id))
      (sink' : s'.queue.hasSink = s.queue.hasSink) : s'.Past (done ++ [a]) := by
    refine ⟨?_, ?_⟩
    · rw [source', closed, closed, List.any_append, List.any_cons, noClose]
      simp
    · rw [sink', sink, abandoned, abandoned, List.any_append, List.any_cons, noAbandon]
      simp
  cases change with
  | clone held =>
    refine still rfl rfl ?_ rfl
    show s.queue.hasSource = (!closed done && (s.clones ++ [true]).any id)
    rw [source, any_of_held held, List.any_append]
    simp
  | @drop k held idle =>
    refine still rfl rfl ?_ ?_
    · rw [queue_drop]
      split
      · next others =>
        rw [source, any_of_held held]
        exact congrArg (!closed done && ·) others.symm
      · next last =>
        have none : (s.clones.set k false).any id = false := Bool.eq_false_iff.mpr last
        show false = (!closed done && (s.clones.set k false).any id)
        rw [none, Bool.and_false]
    · rw [queue_drop]
      split <;> rfl
  | close held free =>
    refine ⟨?_, ?_⟩
    · simp [closed, Queue.close, Action.isClose]
    · show s.queue.hasSink = _
      rw [sink]
      simp [abandoned, Action.isAbandon]
  | abandon =>
    refine ⟨?_, ?_⟩
    · show s.queue.hasSource = _
      rw [source]
      simp [closed, Action.isClose]
    · simp [abandoned, Queue.abandon, Action.isAbandon]
  | _ => exact still rfl rfl source rfl

/-- Where the events are that were taken. -/
structure Flow (capacity : Nat) (s : SharedCollector) : Prop where
  capacity_eq : s.queue.capacity = capacity
  room : s.queue.items.length ≤ capacity
  /-- What was received and what waits is what was taken, in the same order. -/
  fifo : s.queue.hasSink = true → s.received ++ s.queue.items = s.accepted
  /-- What was received before the receiver was given up. -/
  beginning : s.received <+: s.accepted
  /-- The receiver has seen the end only after all events. -/
  ended : s.sawEnd = true → s.queue.hasSource = false ∧ s.received = s.accepted

/-- Every step takes events at the end and gives them out at the beginning. -/
theorem Flow.change {capacity : Nat} {s s' : SharedCollector} {a : Action} (h : s.Flow capacity)
    (fitting : s.Fitting) (change : s.Change a s') : s'.Flow capacity := by
  obtain ⟨capacity_eq, room, fifo, beginning, ended⟩ := h
  cases change with
  | @drop k =>
    have queue : (s.drop k).queue = s.queue ∨ (s.drop k).queue = s.queue.close := by
      rw [queue_drop]
      split
      · exact .inl rfl
      · exact .inr rfl
    obtain same | closed := queue
    · exact ⟨same ▸ capacity_eq, same ▸ room, same ▸ fifo, beginning, same ▸ ended⟩
    · refine ⟨closed ▸ capacity_eq, closed ▸ room, closed ▸ fifo, beginning, fun seen => ?_⟩
      rw [closed]
      exact ⟨rfl, (ended seen).2⟩
  | @take n c found stage sink free =>
    have source := (fitting n c found).sender (by rw [Call.relies, stage])
    refine ⟨capacity_eq, ?_, fun _ => ?_, beginning.trans (List.prefix_append _ _), fun seen => ?_⟩
    · show (s.queue.items ++ [c.event]).length ≤ capacity
      rw [List.length_append, ← capacity_eq]
      exact free
    · show s.received ++ (s.queue.items ++ [c.event]) = s.accepted ++ [c.event]
      rw [← List.append_assoc, fifo sink]
    · rw [(ended seen).1] at source
      cases source
  | close => exact ⟨capacity_eq, room, fifo, beginning, fun seen => ⟨rfl, (ended seen).2⟩⟩
  | @receive e rest sink next =>
    have whole : s.received ++ [e] ++ rest = s.accepted := by
      rw [← fifo sink, next, List.append_assoc]
      rfl
    refine ⟨capacity_eq, ?_, fun _ => whole, ⟨rest, whole⟩, fun seen => ?_⟩
    · rw [next] at room
      exact Nat.le_of_succ_le room
    · have more := fifo sink
      rw [(ended seen).2, next] at more
      cases List.append_right_eq_self.mp more
  | finish sink last =>
    obtain ⟨items, source⟩ := (Queue.ended_iff _).mp last
    refine ⟨capacity_eq, room, fifo, beginning, fun _ => ⟨source, ?_⟩⟩
    have all := fifo sink
    rw [items, List.append_nil] at all
    exact all
  | abandon => exact ⟨capacity_eq, Nat.zero_le _, nofun, beginning, ended⟩
  | _ => exact ⟨capacity_eq, room, fifo, beginning, ended⟩

/-- What is read off all members grows by what is read off the new one and was not read off the one
that it replaces. -/
theorem filterMap_set {α β : Type} (f : α → Option β) {l : List α} {n : Nat} {a b : α}
    {new : List β} (h : l[n]? = some a) (grown : (f b).toList = (f a).toList ++ new) :
    (((l.set n b).filterMap f : List β) : Multiset β) =
      (l.filterMap f : List β) + (new : Multiset β) := by
  have split (y : α) (rest : List α) : (((y :: rest).filterMap f : List β) : Multiset β) =
      (f y).toList + (rest.filterMap f : List β) := by
    cases found : f y <;> simp [found]
  induction l generalizing n with
  | nil => cases h
  | cons x l ih =>
    cases n with
    | zero =>
      cases h
      rw [List.set_cons_zero, split, split, grown, ← Multiset.coe_add, add_right_comm]
    | succ n => rw [List.set_cons_succ, split, split, ih (by simpa using h), add_assoc]

/-- What has been taken and counted, read off the calls. -/
structure Accounts (s : SharedCollector) : Prop where
  taken : ((s.calls.filterMap Call.taken? : List Event) : Multiset Event) = s.accepted
  counted : ((s.calls.filterMap Call.counted? : List Notice) : Multiset Notice) = s.notices

/-- Every step of a call is in the accounts. -/
theorem Accounts.change {s s' : SharedCollector} {a : Action} (h : s.Accounts)
    (change : s.Change a s') : s'.Accounts := by
  obtain ⟨taken, counted⟩ := h
  have moved (accepted : List Event) (notices : List Notice) {n : Nat} {c : Call}
      {stage : Call.Stage} (found : s.calls[n]? = some c)
      (calls : s'.calls = s.calls.set n { c with stage })
      (takes : (Call.taken? { c with stage }).toList = c.taken?.toList ++ accepted)
      (counts : (Call.counted? { c with stage }).toList = c.counted?.toList ++ notices)
      (accepted_eq : s'.accepted = s.accepted ++ accepted)
      (notices_eq : s'.notices = notices ++ s.notices) : s'.Accounts := by
    refine ⟨?_, ?_⟩
    · rw [calls, filterMap_set _ found takes, taken, accepted_eq, Multiset.coe_add]
    · rw [calls, filterMap_set _ found counts, counted, notices_eq, ← Multiset.coe_add, add_comm]
  cases change with
  | call e =>
    refine ⟨?_, ?_⟩
    · rw [List.filterMap_append]
      exact (congrArg _ (List.append_nil _)).trans taken
    · rw [List.filterMap_append]
      exact (congrArg _ (List.append_nil _)).trans counted
  | enter found stage | look found stage | refuse found stage | fail found stage
  | leave found stage =>
    exact moved [] [] found rfl (by simp [Call.taken?, Call.answer?, stage, Notice.taken?])
      (by simp [Call.counted?, stage]) (List.append_nil _).symm rfl
  | take found stage =>
    exact moved [_] [] found rfl (by simp [Call.taken?, Call.answer?, stage, Notice.taken?])
      (by simp [Call.counted?, stage]) rfl rfl
  | count found stage =>
    exact moved [] [_] found rfl (by simp [Call.taken?, Call.answer?, stage])
      (by simp [Call.counted?, stage]) (List.append_nil _).symm rfl
  | _ => exact ⟨taken, counted⟩

/-- What every step of a collector keeps. -/
structure Sound (capacity : Nat) (done : List Action) (s : SharedCollector) : Prop where
  fitting : s.Fitting
  past : s.Past done
  flow : s.Flow capacity
  accounts : s.Accounts

/-- A new collector has neither calls nor events. -/
theorem sound_start (capacity : Nat) : (start capacity).Sound capacity [] where
  fitting _ _ found := by cases found
  past := ⟨rfl, rfl⟩
  flow := ⟨rfl, Nat.zero_le _, fun _ => rfl, List.nil_prefix, nofun⟩
  accounts := ⟨rfl, rfl⟩

/-- Every step of a collector keeps it sound. -/
theorem Sound.step {capacity : Nat} {done : List Action} {s s' : SharedCollector} {a : Action}
    (h : s.Sound capacity done) (step : s.step a = some s') : s'.Sound capacity (done ++ [a]) :=
  have change := Change.of_step step
  ⟨h.fitting.change change, h.past.change change, h.flow.change h.fitting change,
    h.accounts.change change⟩

/-- In every run a collector is sound. -/
theorem run_sound {capacity : Nat} {actions : List Action} {s : SharedCollector}
    (run : (start capacity).run actions = some s) : s.Sound capacity actions :=
  run_induction (P := fun done s => s.Sound capacity done) (sound_start capacity)
    (fun _ _ _ _ _ sound step => sound.step step) run

/-- While a clone is held, only closing takes the sender away. -/
theorem Past.hasSource_of_held {done : List Action} {s : SharedCollector} (h : s.Past done)
    {k : Nat} (held : s.clones[k]? = some true) : s.queue.hasSource = !closed done := by
  rw [h.source, any_of_held held, Bool.and_true]

/-- Closing takes the sender away for good. -/
theorem Past.hasSource_of_closed {done : List Action} {s : SharedCollector} (h : s.Past done)
    (closed : closed done = true) : s.queue.hasSource = false := by
  rw [h.source, closed]
  rfl

/-- A clone that is held says whether the collector has been closed. -/
theorem Past.isClosed?_eq {done : List Action} {s : SharedCollector} (h : s.Past done) {k : Nat}
    (held : s.clones[k]? = some true) : s.isClosed? k = some (closed done) := by
  rw [isClosed?, if_pos held, h.hasSource_of_held held, Bool.not_not]

end SharedCollector

/-- A collector takes an event exactly if it is open, somebody takes events, and there is room. -/
theorem Collector.collect_eq_collected_iff (e : Event) (q : Queue Event) :
    (Collector.collect e q).1 = .collected e ↔
      q.hasSource = true ∧ q.hasSink = true ∧ q.items.length < q.capacity := by
  unfold Collector.collect
  split
  · next source =>
    unfold Collector.send
    cases offered : q.offer e with
    | ok q' =>
      obtain ⟨sink, room, -⟩ := (Queue.offer_eq_ok_iff e q q').mp offered
      simp [source, sink, room]
    | error why =>
      have refused : ¬(q.hasSink = true ∧ q.items.length < q.capacity) := by
        rintro ⟨sink, room⟩
        rw [(Queue.offer_eq_ok_iff e q _).mpr ⟨sink, room, rfl⟩] at offered
        cases offered
      simpa [source] using refused
  · next gone => simp [gone]

/-- An event that comes to a collector is taken or turned away. -/
theorem Collector.collect_cases (e : Event) (q : Queue Event) :
    (Collector.collect e q).1 = .collected e ∨
      ∃ why, (Collector.collect e q).1 = .turnedAway why e := by
  unfold Collector.collect Collector.send
  split
  · split
    · exact .inl rfl
    · exact .inr ⟨_, rfl⟩
  · exact .inr ⟨_, rfl⟩

namespace SharedCollector

/-- The moment in which a call is answered, with what has happened before. -/
structure Answered (capacity : Nat) (done : List Action) (s s' : SharedCollector) (e : Event)
    (answer : Notice) : Prop where
  /-- The answer, and what becomes of the queue, is as if the call had come alone. -/
  alone : (answer, s'.queue) = Collector.collect e s.queue
  accepted : s'.accepted = s.accepted ++ answer.taken?.toList
  /-- The event is taken exactly if nobody has closed the collector, the receiver is there, and
  there is room. -/
  taken_iff : answer = .collected e ↔
    closed done = false ∧ abandoned done = false ∧ s.queue.items.length < capacity
  /-- If it is not taken it is turned away. -/
  else_turned : answer = .collected e ∨ ∃ why, answer = .turnedAway why e

/-- A step that answers a call takes its event or turns it away, as the collector does. -/
theorem Change.answers {s s' : SharedCollector} {n : Nat} (change : s.Change (.proceed n) s')
    (fitting : s.Fitting) {c c' : Call} {answer : Notice} (found : s.calls[n]? = some c)
    (before : c.answer? = none) (found' : s'.calls[n]? = some c')
    (after : c'.answer? = some answer) :
    (answer, s'.queue) = Collector.collect c.event s.queue ∧
      s'.accepted = s.accepted ++ answer.taken?.toList := by
  have inRange : n < s.calls.length := (List.getElem?_eq_some_iff.mp found).1
  have now {stage : Call.Stage} (calls : s'.calls = s.calls.set n { c with stage }) :
      Call.answer? { c with stage } = some answer := by
    rw [calls, List.getElem?_set_self inRange] at found'
    rw [Option.some.inj found', after]
  cases change with
  | enter found₀ | look found₀ =>
    cases found.symm.trans found₀
    cases now rfl
  | refuse found₀ stage gone =>
    cases found.symm.trans found₀
    cases now rfl
    rw [Collector.collect, gone]
    exact ⟨rfl, (List.append_nil _).symm⟩
  | take found₀ stage sink room =>
    cases found.symm.trans found₀
    cases now rfl
    have source := (fitting n c found).sender (by rw [Call.relies, stage])
    rw [Collector.collect, if_pos source, Collector.send,
      (Queue.offer_eq_ok_iff c.event s.queue _).mpr ⟨sink, room, rfl⟩]
    exact ⟨rfl, rfl⟩
  | fail found₀ stage refused =>
    cases found.symm.trans found₀
    cases now rfl
    have source := (fitting n c found).sender (by rw [Call.relies, stage])
    rw [Collector.collect, if_pos source, Collector.send, refused]
    exact ⟨rfl, (List.append_nil _).symm⟩
  | count found₀ stage | leave found₀ stage =>
    cases found.symm.trans found₀
    rw [Call.answer?, stage] at before
    cases before

/-- In every run each call is answered as if it had come alone. -/
theorem Sound.answered {capacity : Nat} {done : List Action} {s s' : SharedCollector}
    (h : s.Sound capacity done) {n : Nat} {c c' : Call} {answer : Notice}
    (found : s.calls[n]? = some c) (before : c.answer? = none)
    (step : s.step (.proceed n) = some s') (found' : s'.calls[n]? = some c')
    (after : c'.answer? = some answer) : s.Answered capacity done s' c.event answer := by
  obtain ⟨alone, accepted⟩ :=
    (Change.of_step step).answers h.fitting found before found' after
  have going : c.isOver = false := by
    unfold Call.isOver
    unfold Call.answer? at before
    split <;> simp_all
  have source := h.past.hasSource_of_held ((h.fitting n c found).held going)
  have answer_eq : answer = (Collector.collect c.event s.queue).1 := congrArg Prod.fst alone
  refine ⟨alone, accepted, ?_, ?_⟩
  · rw [answer_eq, Collector.collect_eq_collected_iff, source, h.past.sink, h.flow.capacity_eq]
    simp
  · rw [answer_eq]
    exact Collector.collect_cases c.event s.queue

end SharedCollector
end ProxyMeter.Pipeline
