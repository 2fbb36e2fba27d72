import ProxyMeter.Proofs.Pipeline.Batching

/-!
# How long records are gathered

Ticks are due at multiples of the interval, also when a long write has made some of them fall away,
and the next one is never further off than one interval. A tick leaves nothing gathered. So what is
gathered was taken no longer than one interval before the next tick, and where the publisher rests
the next tick is at the first multiple after the time.
-/

namespace ProxyMeter.Pipeline

open Store Traffic

variable {σ : Type}

namespace Publisher

/-! ### The clock -/

/-- The tick after one that was due at a multiple is due at a later one. -/
theorem exists_nextDeadline_eq {p : Publisher σ} {k : Nat} (due : p.deadline = k * p.interval)
    (now : Nat) : ∃ k', k < k' ∧ p.nextDeadline now = k' * p.interval := by
  unfold nextDeadline
  split
  · -- The ticks that were missed are the whole intervals since the deadline.
    refine ⟨k + (now - p.deadline) / p.interval + 1, Nat.lt_succ_of_le (Nat.le_add_right ..), ?_⟩
    have whole := Nat.div_add_mod' (now - p.deadline) p.interval
    rw [Nat.succ_mul, Nat.add_mul, ← due]
    omega
  · exact ⟨k + 1, by omega, by rw [due, Nat.succ_mul]⟩

/-- The tick after one that is due is not further off than one interval. -/
theorem nextDeadline_le {p : Publisher σ} {now : Nat} (due : p.deadline ≤ now) :
    p.nextDeadline now ≤ now + p.interval := by
  unfold nextDeadline
  split <;> omega

/-- What a move does to the clock: nothing, unless it sees a tick that is due. -/
theorem Change.clock [Repository σ] {now : Nat} {stop : Bool} {p p' : Publisher σ} {move : Move}
    {notices : List Notice} (h : p.Change now stop move notices p') :
    p'.interval = p.interval ∧
      (p'.deadline = p.deadline ∨ p.deadline ≤ now ∧ p'.deadline = p.nextDeadline now) := by
  cases h with
  | take | fill | heed | finish => exact ⟨rfl, .inl rfl⟩
  | idle _ due | due _ due => exact ⟨rfl, .inr ⟨due, rfl⟩⟩
  | part | stored | refused | failed | expired =>
    exact ⟨interval_afterWrite _ _, .inl (deadline_afterWrite _ _)⟩

/-- The next tick is due at a multiple of the interval, and not further off than one interval. -/
structure OnTime (interval now : Nat) (p : Publisher σ) : Prop where
  interval_eq : p.interval = interval
  multiple : ∃ k, 0 < k ∧ p.deadline = k * interval
  near : p.deadline ≤ now + interval

/-- Moves keep the clock on time. -/
theorem OnTime.change [Repository σ] {interval now : Nat} {stop : Bool} {p p' : Publisher σ}
    {move : Move} {notices : List Notice} (hp : p.OnTime interval now)
    (h : p.Change now stop move notices p') : p'.OnTime interval now := by
  obtain ⟨own, ⟨k, positive, due⟩, near⟩ := hp
  obtain ⟨interval_eq, same | ⟨seen, next⟩⟩ := h.clock
  · exact ⟨interval_eq.trans own, ⟨k, positive, same.trans due⟩, same.trans_le near⟩
  · rw [← own] at due
    obtain ⟨k', later, next'⟩ := exists_nextDeadline_eq due now
    refine ⟨interval_eq.trans own, ⟨k', by omega, ?_⟩, ?_⟩
    · rw [next, next', own]
    · rw [next, ← own]
      exact nextDeadline_le seen

/-- Where the next tick is ahead, it is due at the first multiple after the time. -/
theorem OnTime.deadline_eq {interval now : Nat} {p : Publisher σ} (hp : p.OnTime interval now)
    (ahead : now < p.deadline) : p.deadline = (now / interval + 1) * interval := by
  obtain ⟨-, ⟨k, positive, due⟩, near⟩ := hp
  have last : now / interval = k - 1 := by
    apply Nat.div_eq_of_lt_le
    · rw [Nat.sub_one_mul]
      omega
    · rw [Nat.sub_add_cancel positive]
      omega
  rw [last, Nat.sub_add_cancel positive]
  exact due

/-- A move leaves nothing gathered, or adds what it takes and leaves the next tick where it is. -/
theorem Change.gathers [Repository σ] {now : Nat} {stop : Bool} {p p' : Publisher σ} {move : Move}
    {notices : List Notice} (h : p.Change now stop move notices p') :
    p'.batch = [] ∨ p'.batch = p.batch ++ p.received move ∧ p'.deadline = p.deadline := by
  cases h with
  | take gathering next => exact .inr ⟨by simp [received, next], rfl⟩
  | fill | due | finish => exact .inl rfl
  | idle _ _ empty => exact .inl empty
  | heed => exact .inr ⟨(List.append_nil _).symm, rfl⟩
  | part | stored | refused | failed | expired =>
    exact .inr ⟨(batch_afterWrite _ _).trans (List.append_nil _).symm, deadline_afterWrite _ _⟩

/-- Nothing is gathered but while the publisher gathers. -/
theorem Coherent.batch_eq_nil {p : Publisher σ} (hc : p.Coherent) (other : p.phase ≠ .gathering) :
    p.batch = [] := by
  cases phase : p.phase with
  | gathering => exact absurd phase other
  | writing => exact hc.writing phase
  | gone => exact (hc.gone phase).2.2

end Publisher

namespace PublisherTask

/-! ### When records are taken -/

/-- A record that is taken from the queue, and the time at which it is. -/
structure Taking where
  record : Record
  time : Nat

/-- The records that a step takes. -/
def takingsOf (t : PublisherTask σ) : Action → List Taking
  | .move m => (t.publisher.received m).map (Taking.mk · t.now)
  | _ => []

/-- The records that are taken in a run, the earliest first. -/
def takings [Repository σ] (t : PublisherTask σ) : List Action → List Taking
  | [] => []
  | a :: rest => t.takingsOf a ++ ((t.step a).elim [] fun t' => t'.takings rest)

/-- The last of the records that are taken, as many as are gathered. -/
def gathered (taken : List Taking) (t : PublisherTask σ) : List Taking :=
  taken.drop (taken.length - t.publisher.batch.length)

/-- Nothing can happen before time passes or somebody else does something. -/
def Resting [Repository σ] (t : PublisherTask σ) : Prop :=
  ∀ move, t.publisher.step t.now t.stop move = none

/-- While the publisher gathers, no time passes beyond its next tick. -/
def Punctual [Repository σ] (t : PublisherTask σ) : List Action → Prop
  | [] => True
  | a :: rest =>
    (∀ millis, a = .pass millis → t.publisher.phase = .gathering →
      t.now + millis ≤ t.publisher.deadline) ∧
    ∀ t', t.step a = some t' → t'.Punctual rest

/-- What is taken in a longer run. -/
theorem takings_append [Repository σ] {t g : PublisherTask σ} {done : List Action}
    (run : t.run done = some g) (a : Action) :
    t.takings (done ++ [a]) = t.takings done ++ g.takingsOf a := by
  induction done generalizing t with
  | nil =>
    cases run
    cases step : g.step a <;> simp [takings, step]
  | cons b rest ih =>
    rw [PublisherTask.run, List.foldlM_cons] at run
    obtain ⟨t', step, run⟩ := Option.bind_eq_some_iff.mp run
    simp only [List.cons_append, takings, step, Option.elim_some, ih run, List.append_assoc]

/-- A longer run is punctual if it is so up to its last step and in this. -/
theorem punctual_append [Repository σ] {t g : PublisherTask σ} {done : List Action}
    (run : t.run done = some g) {a : Action} (punctual : t.Punctual (done ++ [a])) :
    t.Punctual done ∧ ∀ millis, a = .pass millis → g.publisher.phase = .gathering →
      g.now + millis ≤ g.publisher.deadline := by
  induction done generalizing t with
  | nil =>
    cases run
    exact ⟨trivial, punctual.1⟩
  | cons b rest ih =>
    rw [PublisherTask.run, List.foldlM_cons] at run
    obtain ⟨t', step, run⟩ := Option.bind_eq_some_iff.mp run
    obtain ⟨before, last⟩ := ih run (punctual.2 t' step)
    refine ⟨⟨punctual.1, ?_⟩, last⟩
    intro f'' step'
    cases step.symm.trans step'
    exact before

/-! ### What every step keeps -/

/-- A clock on time, and what is gathered, with the times at which it was taken. -/
structure Dated (interval : Nat) (taken : List Taking) (t : PublisherTask σ) : Prop where
  coherent : t.publisher.Coherent
  clock : t.publisher.OnTime interval t.now
  records : (t.gathered taken).map Taking.record = t.publisher.batch
  times : ∀ x ∈ t.gathered taken, t.publisher.deadline ≤ x.time + interval ∧ x.time ≤ t.now

theorem dated_start (capacity batchSize : Nat) {interval : Nat} (ticks : 0 < interval)
    (store : σ) : (start capacity batchSize interval store).Dated interval [] := by
  have least : max 1 interval = interval := by omega
  refine ⟨(State.publisher_start capacity batchSize interval store).1,
    ⟨least, ⟨1, by omega, ?_⟩, ?_⟩, rfl, nofun⟩
  · exact least.trans (Nat.one_mul _).symm
  · exact (least.trans (Nat.zero_add _).symm).le

/-- Where nothing is gathered, no record is. -/
theorem gathered_eq_nil {taken : List Taking} {t : PublisherTask σ}
    (none : t.publisher.batch = []) : t.gathered taken = [] := by
  simp [gathered, none]

/-- After a move nothing is gathered, or what was gathered before and what the move takes. -/
theorem Dated.gathered_moved [Repository σ] {interval : Nat} {taken : List Taking}
    {t : PublisherTask σ} {m : Publisher.Move} {notices : List Notice} {publisher : Publisher σ}
    (ht : t.Dated interval taken) (change : t.publisher.Change t.now t.stop m notices publisher) :
    publisher.batch = [] ∧ (t.moved m notices publisher).gathered
    (taken ++ t.takingsOf (.move m)) = [] ∨
      publisher.batch = t.publisher.batch ++ (t.takingsOf (.move m)).map Taking.record ∧
      publisher.deadline = t.publisher.deadline ∧
      (t.moved m notices publisher).gathered (taken ++ t.takingsOf (.move m)) =
        t.gathered taken ++ t.takingsOf (.move m) := by
  rcases change.gathers with none | ⟨batch, deadline⟩
  · exact .inl ⟨none, gathered_eq_nil none⟩
  · have received : (t.takingsOf (.move m)).map Taking.record = t.publisher.received m := by
      simp [takingsOf, Function.comp_def]
    rw [← received] at batch
    refine .inr ⟨batch, deadline, ?_⟩
    have lengths := congrArg List.length ht.records
    simp only [gathered, List.length_map, List.length_drop] at lengths
    have place : (taken ++ t.takingsOf (.move m)).length - publisher.batch.length =
        taken.length - t.publisher.batch.length := by
      rw [batch]
      simp only [List.length_append, List.length_map]
      omega
    rw [gathered, show (t.moved m notices publisher).publisher = publisher from rfl, place,
      List.drop_append_of_le_length (by omega)]
    rfl

/-- Every step keeps the dates. -/
theorem Dated.change [Repository σ] {interval : Nat} {taken : List Taking} {t t' : PublisherTask σ}
    {a : Action} (ht : t.Dated interval taken) (h : t.Change a t') :
    t'.Dated interval (taken ++ t.takingsOf a) := by
  have coherent := coherent_change ht.coherent h
  obtain ⟨interval_eq, multiple, near⟩ := ht.clock
  cases h with
  | send | close | cancel =>
    rw [show t.takingsOf _ = [] from rfl, List.append_nil]
    exact ⟨coherent, ⟨interval_eq, multiple, near⟩, ht.records, ht.times⟩
  | pass millis =>
    rw [show t.takingsOf _ = [] from rfl, List.append_nil]
    refine ⟨coherent, ⟨interval_eq, multiple, ?_⟩, ht.records, ?_⟩
    · show t.publisher.deadline ≤ t.now + millis + interval
      omega
    · intro x member
      obtain ⟨late, before⟩ := ht.times x member
      exact ⟨late, Nat.le_add_right_of_le before⟩
  | @move m notices publisher change =>
    have clock := ht.clock.change change
    rcases ht.gathered_moved change with ⟨none, nothing⟩ | ⟨batch, deadline, all⟩
    · refine ⟨coherent, clock, ?_, ?_⟩
      · rw [nothing]
        exact none.symm
      · rw [nothing]
        exact nofun
    · refine ⟨coherent, clock, ?_, ?_⟩
      · rw [all, List.map_append, ht.records]
        exact batch.symm
      · intro x member
        rw [all, List.mem_append] at member
        rcases member with before | new
        · obtain ⟨late, earlier⟩ := ht.times x before
          exact ⟨deadline.trans_le late, earlier⟩
        · obtain ⟨r, -, rfl⟩ := List.mem_map.mp new
          exact ⟨clock.near, le_refl _⟩

/-- In a step in which no time passes beyond a tick, nothing that is gathered gets older than an
interval. -/
theorem Dated.brief [Repository σ] {interval : Nat} {taken : List Taking} {t t' : PublisherTask σ}
    {a : Action} (ht : t.Dated interval taken) (h : t.Change a t')
    (punctual : ∀ millis, a = .pass millis → t.publisher.phase = .gathering →
      t.now + millis ≤ t.publisher.deadline)
    (brief : ∀ x ∈ t.gathered taken, t.now ≤ x.time + interval) :
    ∀ x ∈ t'.gathered (taken ++ t.takingsOf a), t'.now ≤ x.time + interval := by
  cases h with
  | send | close | cancel =>
    rw [show t.takingsOf _ = [] from rfl, List.append_nil]
    exact brief
  | pass millis =>
    rw [show t.takingsOf _ = [] from rfl, List.append_nil]
    intro x (member : x ∈ t.gathered taken)
    by_cases gathering : t.publisher.phase = .gathering
    · exact (punctual millis rfl gathering).trans (ht.times x member).1
    · rw [gathered_eq_nil (ht.coherent.batch_eq_nil gathering)] at member
      cases member
  | @move m notices publisher change =>
    intro x member
    rcases ht.gathered_moved change with ⟨-, nothing⟩ | ⟨-, -, all⟩
    · rw [nothing] at member
      cases member
    · rw [all, List.mem_append] at member
      rcases member with before | new
      · exact brief x before
      · obtain ⟨r, -, rfl⟩ := List.mem_map.mp new
        exact Nat.le_add_right _ _

/-! ### Every run -/

/-- Where the publisher rests, it gathers and its next tick is still to come, or it is gone. -/
theorem Resting.phase [Repository σ] {t : PublisherTask σ} (rest : t.Resting) :
    t.publisher.phase = .gathering ∧ t.now < t.publisher.deadline ∨ t.publisher.phase = .gone := by
  cases phase : t.publisher.phase with
  | gathering =>
    left
    refine ⟨rfl, ?_⟩
    have tick := rest .tick
    simp only [Publisher.step, phase] at tick
    by_contra due
    rw [if_pos (by omega)] at tick
    split at tick <;> cases tick
  | writing records since last =>
    have ended := rest (.failed .writesOff 0)
    simp [Publisher.step, phase] at ended
  | gone => exact .inr rfl

/-- At rest nothing is gathered that was taken before the last multiple. -/
theorem Dated.recent [Repository σ] {interval : Nat} {taken : List Taking} {t : PublisherTask σ}
    (ht : t.Dated interval taken) (rest : t.Resting) :
    ∀ x ∈ t.gathered taken, t.now / interval * interval ≤ x.time := by
  intro x member
  rcases rest.phase with ⟨-, ahead⟩ | gone
  · have late := (ht.times x member).1
    rw [ht.clock.deadline_eq ahead, Nat.succ_mul] at late
    omega
  · rw [gathered_eq_nil (ht.coherent.batch_eq_nil (by simp [gone]))] at member
    cases member

/-- What is known after a run of the records that are gathered, and of the clock. -/
structure Fresh [Repository σ] (t : PublisherTask σ) (interval : Nat) (t₀ : PublisherTask σ)
    (actions : List Action) : Prop where
  records : (t.gathered (t₀.takings actions)).map Taking.record = t.publisher.batch
  times : ∀ x ∈ t.gathered (t₀.takings actions), x.time ≤ t.now
  deadline : ∃ k, 0 < k ∧ t.publisher.deadline = k * interval
  /-- At rest the next tick is due at the first multiple after the time. -/
  next : t.Resting → t.publisher.phase = .gathering →
    t.publisher.deadline = (t.now / interval + 1) * interval
  /-- At rest nothing is gathered that was taken before the last multiple. -/
  recent : t.Resting → ∀ x ∈ t.gathered (t₀.takings actions), t.now / interval * interval ≤ x.time
  /-- So nothing is gathered for as long as an interval. -/
  young : t.Resting → ∀ x ∈ t.gathered (t₀.takings actions), t.now < x.time + interval
  /-- If time does not pass beyond a tick while the publisher gathers, nothing is gathered for
  longer than an interval, at rest or not. -/
  brief : t₀.Punctual actions → ∀ x ∈ t.gathered (t₀.takings actions), t.now ≤ x.time + interval

/-- However records come, however long writes take, and whichever of a record and a tick is seen
first, what is gathered was taken since the last multiple of the interval. -/
theorem run_fresh [Repository σ] {capacity batchSize interval : Nat} (ticks : 0 < interval)
    {store : σ} {t : PublisherTask σ} {actions : List Action}
    (run : (start capacity batchSize interval store).run actions = some t) :
    t.Fresh interval (start capacity batchSize interval store) actions := by
  generalize beginning : start capacity batchSize interval store = t₀ at run ⊢
  have kept : t.Dated interval (t₀.takings actions) ∧
      (t₀.Punctual actions → ∀ x ∈ t.gathered (t₀.takings actions), t.now ≤ x.time + interval) := by
    refine run_induction (P := fun done t => t.Dated interval (t₀.takings done) ∧
      (t₀.Punctual done → ∀ x ∈ t.gathered (t₀.takings done), t.now ≤ x.time + interval)) ?_ ?_ run
    · rw [← beginning]
      exact ⟨dated_start _ _ ticks _, fun _ => nofun⟩
    · intro done g a g' before ⟨dated, brief⟩ step
      rw [takings_append before]
      refine ⟨dated.change (.of_step step), ?_⟩
      intro punctual
      obtain ⟨earlier, last⟩ := punctual_append before punctual
      exact dated.brief (.of_step step) last (brief earlier)
  obtain ⟨dated, brief⟩ := kept
  refine ⟨dated.records, fun x member => (dated.times x member).2, dated.clock.multiple, ?_,
    dated.recent, ?_, brief⟩
  · intro rest gathering
    rcases rest.phase with ⟨-, ahead⟩ | gone
    · exact dated.clock.deadline_eq ahead
    · cases gathering.symm.trans gone
  · intro rest x member
    have since := dated.recent rest x member
    have whole := Nat.div_add_mod' t.now interval
    have part := Nat.mod_lt t.now ticks
    omega

private def fromPort (port : UInt16) : Record where
  event :=
    { sourceIp := "10.0.0.7", destinationIp := "192.0.2.1", domain := "a.example", port
      timestamp := ⟨5, 0⟩, latencyMs := 3, bytesIn := 40, bytesOut := 2, transport := transportTcp }
  createdAt := ⟨6, 0⟩

private def overrun : List Action :=
  [.send (fromPort 1), .move .take, .pass 5, .move .tick, .pass 17, .send (fromPort 2),
    .move (.written 17), .move .take, .move .tick, .pass 1, .move (.failed .writesOff 1),
    .send (fromPort 3), .move .take, .pass 1]

/-- A write goes on over three ticks. The next record is taken before the late tick is seen, and
another one after the next write. -/
theorem run_fresh_overrun : ∃ t : PublisherTask Memory,
    (start 3 2 5 ({} : Memory)).run overrun = some t ∧
    t.now = 24 ∧ t.publisher.deadline = 25 ∧ t.Resting ∧
    t.gathered ((start 3 2 5 ({} : Memory)).takings overrun) = [⟨fromPort 3, 23⟩] ∧
    t.Fresh 5 (start 3 2 5 ({} : Memory)) overrun := by
  obtain ⟨t, run, now, deadline, rest, gathered⟩ : ∃ t : PublisherTask Memory,
      (start 3 2 5 ({} : Memory)).run overrun = some t ∧ t.now = 24 ∧ t.publisher.deadline = 25 ∧
        t.Resting ∧
        t.gathered ((start 3 2 5 ({} : Memory)).takings overrun) = [⟨fromPort 3, 23⟩] :=
    ⟨_, rfl, rfl, rfl, fun move => by cases move <;> rfl, rfl⟩
  exact ⟨t, run, now, deadline, rest, gathered, run_fresh (by decide) run⟩

end PublisherTask
end ProxyMeter.Pipeline
