import ProxyMeter.Proofs.Session.Books
import ProxyMeter.Store.Memory

/-!
# Every session is accounted for

However the steps of sessions interleave, and however sessions end, the gauge of active connections
is between zero and the number of places taken in the pool. A session is ruled on at most once, and
when no session is in progress what was counted adds up.
-/

namespace ProxyMeter.Session

open Calendar Gate Pipeline Socks Store Traffic

/-- The reasons for which a session is rejected that has a place in the pool. -/
def RejectReason.afterAdmission : List RejectReason :=
  [.rateLimit, .unauthorized, .forbidden, .dial, .protocol]

/-- The reasons of the verdicts that rejected a session. -/
def reasons (verdicts : List (Nat × Verdict)) : List RejectReason :=
  verdicts.filterMap fun v => v.2.reason?

section
variable (verdicts : List (Nat × Verdict))

private theorem total_eq_zero {a : Account} (h : ∀ verdict : Verdict, verdict.share a = 0) :
    total verdicts a = 0 := by
  rw [total, List.map_congr_left fun v _ => h v.2, List.map_const', List.sum_replicate_nat,
    Nat.mul_zero]

/-- What verdicts add to the account of a reason is the number of rejections for it. -/
theorem total_rejected (reason : RejectReason) :
    total verdicts (.rejected reason) = (reasons verdicts).count reason := by
  induction verdicts with
  | nil => rfl
  | cons v rest ih =>
    obtain ⟨n, verdict⟩ := v
    rw [total] at ih
    rw [total, List.map_cons, List.sum_cons, ih]
    cases verdict with
    | delivered e => exact Nat.zero_add _
    | rejected r =>
      show _ = (r :: reasons rest).count reason
      rw [List.count_cons, Nat.add_comm, Verdict.share]
      simp only [beq_iff_eq]

/-- What verdicts add to an account of bytes is what the delivered events say. -/
theorem total_delivered {a : Account} {bytes : Event → UInt64}
    (delivery : ∀ e, (Verdict.delivered e).share a = (bytes e).toNat)
    (rejection : ∀ reason, (Verdict.rejected reason).share a = 0) :
    .ofNat (total verdicts a) = ((delivered verdicts).map bytes).sum := by
  induction verdicts with
  | nil => rfl
  | cons v rest ih =>
    obtain ⟨n, verdict⟩ := v
    rw [total, List.map_cons, List.sum_cons, UInt64.ofNat_add]
    cases verdict with
    | delivered e =>
      rw [delivery, UInt64.ofNat_toNat]
      exact congrArg (bytes e + ·) ih
    | rejected reason =>
      rw [rejection]
      exact (zero_add _).trans ih

/-- A verdict delivers an event or gives a reason. -/
theorem length_verdicts :
    verdicts.length = (delivered verdicts).length + (reasons verdicts).length := by
  induction verdicts with
  | nil => rfl
  | cons v rest ih =>
    obtain ⟨n, verdict⟩ := v
    rw [List.length_cons, ih]
    cases verdict with
    | delivered e => exact (Nat.succ_add _ _).symm
    | rejected reason => rfl

end

/-- A reason is admission or comes after it. -/
theorem RejectReason.length_eq (reasons : List RejectReason) :
    reasons.length = reasons.count .admission + (afterAdmission.map reasons.count).sum := by
  induction reasons with
  | nil => rfl
  | cons reason rest ih =>
    rw [List.length_cons, ih]
    cases reason <;> simp [afterAdmission, List.count_cons] <;> omega

namespace Server

variable {σ : Type}

/-- What the pipeline counts are the calls of its collector. -/
theorem balance_allMetrics (s : Server σ) (a : Account) : s.allMetrics.balance a =
    s.metrics.balance a + match a with | .called => .ofNat s.calls.card | _ => 0 := by
  obtain ⟨rejections, active, -⟩ := Notice.foldr_count_sessions s.pipeline.notices s.metrics
  have rejected (reason : RejectReason) :
      s.allMetrics.rejected reason = s.metrics.rejected reason :=
    congrArg (fun series => (series.lookup reason).getD 0) rejections
  have still (c : Metrics.Counter) (h : ∀ n, Notice.amount c n = 0) :
      s.allMetrics.counter c = s.metrics.counter c + 0 := by
    rw [allMetrics, Notice.counter_foldr, List.map_congr_left fun n _ => h n, List.map_const',
      List.sum_replicate_nat, Nat.mul_zero]
    rfl
  cases a with
  | active => exact (congrArg Int64.toUInt64 active).trans (add_zero _).symm
  | total => exact still .totalConnections fun n => by cases n <;> rfl
  | ended =>
    rw [Metrics.balance, still .closedConnections fun n => by cases n <;> rfl, rejected, add_zero]
    exact (add_zero _).symm
  | rejected reason => exact (rejected reason).trans (add_zero _).symm
  | called =>
    have taken : (s.pipeline.notices.map (Notice.amount .eventsCollected)).sum =
        s.pipeline.taken.length := Notice.length_entries _ (fun n => by cases n <;> rfl) _
    have turned : (s.pipeline.notices.map (Notice.drops .collector)).sum =
        s.pipeline.turned.length := Notice.length_entries _ (fun n => by cases n <;> rfl) _
    rw [Metrics.balance, allMetrics, Notice.counter_foldr, Notice.dropped_foldr, taken, turned,
      calls, Multiset.card_add, Multiset.coe_card, Multiset.coe_card, UInt64.ofNat_add]
    exact add_add_add_comm _ _ _ _
  | bytesIn => exact still .bytesIn fun n => by cases n <;> rfl
  | bytesOut => exact still .bytesOut fun n => by cases n <;> rfl

/-- There are at most as many sessions counted as active as places taken. -/
theorem active_le_places (s : Server σ) : s.tally (·.share .active) ≤ s.tally Stage.places :=
  List.sum_le_sum fun v _ => v.stage.active_le_places

/-- There are at most as many places taken as sessions in progress. -/
theorem places_le_inProgress (s : Server σ) : s.tally Stage.places ≤ s.inProgress := by
  rw [tally, inProgress]
  induction s.connections with
  | nil => exact Nat.le_refl _
  | cons v rest ih =>
    rw [List.map_cons, List.sum_cons, List.countP_cons, Nat.add_comm]
    exact Nat.add_le_add ih v.places_le

/-- When no session is in progress, all of them are gone. -/
theorem gone_of_rest {s : Server σ} (rest : s.inProgress = 0) {v : Connection}
    (here : v ∈ s.connections) : v.stage = .gone := by
  have absent := List.countP_eq_zero.mp rest v here
  obtain ⟨peer, stage⟩ := v
  cases stage with
  | gone => rfl
  | _ => exact absurd rfl absent

/-- When no session is in progress, a sum over the stages is a multiple. -/
theorem tally_of_rest {s : Server σ} (rest : s.inProgress = 0) (f : Stage → Nat) :
    s.tally f = s.connections.length * f .gone := by
  rw [tally, List.map_congr_left fun v here => congrArg f (gone_of_rest rest here), List.map_const',
    List.sum_replicate_nat]

section
variable {limit : Nat} {done : List Action} {verdicts : List (Nat × Verdict)} {s : Server σ}

/-- The gauge is the number of sessions that are counted as active. -/
theorem Books.gauge (hb : s.Books limit done verdicts) :
    s.allMetrics.activeConnections.toInt = s.tally (·.share .active) := by
  have balance : s.allMetrics.activeConnections.toUInt64 = .ofNat (s.tally (·.share .active)) := by
    apply (s.balance_allMetrics .active).trans
    rw [hb.balance, total_eq_zero _ fun verdict => by cases verdict <;> rfl]
    exact add_zero _
  have small : s.tally (·.share .active) < 2 ^ 63 := by
    have active := s.active_le_places
    have places := s.places_le_inProgress
    have room := hb.room
    rw [widest, Nat.pow_eq] at room
    omega
  have value : s.allMetrics.activeConnections = .ofNat (s.tally (·.share .active)) :=
    congrArg UInt64.toInt64 balance
  rw [value, Int64.toInt_ofNat_of_lt small]

/-- When no session is in progress, there is one verdict on each. -/
theorem Books.perm (hb : s.Books limit done verdicts) (rest : s.inProgress = 0) :
    (verdicts.map Prod.fst).Perm (List.range s.connections.length) := by
  apply (List.perm_ext_iff_of_nodup hb.once List.nodup_range).mpr
  intro n
  rw [← hb.ruled, List.mem_range]
  constructor
  · rintro ⟨v, here, -⟩
    exact (List.getElem?_eq_some_iff.mp here).1
  · intro bound
    refine ⟨s.connections[n], List.getElem?_eq_getElem bound, ?_⟩
    rw [gone_of_rest rest (List.getElem_mem bound)]
    rfl

/-- When no session is in progress, an account holds what the sessions that are gone and the
verdicts have added. -/
theorem Books.balance_of_rest (hb : s.Books limit done verdicts) (rest : s.inProgress = 0)
    (a : Account) : s.metrics.balance a =
      .ofNat (s.connections.length * Stage.gone.share a + total verdicts a) := by
  rw [hb.balance, tally_of_rest rest]

end

/-- What was counted adds up when no session is in progress. The counters wrap, and so do the sums
that they are compared with. -/
structure Settled (actions : List Action) (verdicts : List (Nat × Verdict)) (s : Server σ) :
    Prop where
  active : s.allMetrics.activeConnections = 0
  places : s.pool.active = 0
  /-- Every connection was closed or refused for want of a place. -/
  connections : s.allMetrics.counter .totalConnections =
    s.allMetrics.counter .closedConnections + s.allMetrics.rejected .admission
  /-- A connection that was closed had its event collected, dropped, or was rejected. -/
  closed : outside actions = [] → s.allMetrics.counter .closedConnections =
    s.allMetrics.counter .eventsCollected + s.allMetrics.dropped .collector +
      (RejectReason.afterAdmission.map s.allMetrics.rejected).sum
  /-- A latency was observed for every call of the collector. -/
  latencies : s.allMetrics.connectionLatency.count = (delivered verdicts).length
  bytesIn : s.allMetrics.counter .bytesIn = ((delivered verdicts).map Event.inflow).sum
  bytesOut : s.allMetrics.counter .bytesOut = ((delivered verdicts).map Event.outflow).sum
  /-- There is one verdict on each session. -/
  each : (verdicts.map Prod.fst).Perm (List.range s.connections.length)

/-- What holds of a server whatever happened, and what holds when no session is in progress. -/
structure Balanced (limit : Nat) (actions : List Action) (verdicts : List (Nat × Verdict))
    (s : Server σ) : Prop where
  nonneg : 0 ≤ s.allMetrics.activeConnections.toInt
  active : s.allMetrics.activeConnections.toInt ≤ s.pool.active
  places : s.pool.active ≤ limit
  /-- No session is ruled on twice: it calls the collector once, or is rejected once, never both. -/
  once : (verdicts.map Prod.fst).Nodup
  /-- The collector is called with the events that sessions deliver and by nobody but those
  outside. -/
  calls : s.calls = delivered verdicts + outside actions
  rejections : ∀ reason, s.allMetrics.rejected reason = .ofNat ((reasons verdicts).count reason)
  /-- The event that a session delivers has the byte counts with which its relaying ended. -/
  relayed : ∀ n e, (n, .delivered e) ∈ verdicts →
    ∃ fault, .finish n e.inflow e.outflow fault ∈ actions
  settled : s.inProgress = 0 → s.Settled actions verdicts

section
variable {limit : Nat} {done : List Action} {verdicts : List (Nat × Verdict)} {s : Server σ}

/-- Rejections are counted under their reasons. -/
theorem Books.rejected (hb : s.Books limit done verdicts) (reason : RejectReason) :
    s.allMetrics.rejected reason = .ofNat ((reasons verdicts).count reason) := by
  have nothing : s.tally (·.share (.rejected reason)) = 0 := by
    rw [tally, List.map_congr_left (g := fun _ => 0) fun v _ => by cases v.stage <;> rfl,
      List.map_const', List.sum_replicate_nat, Nat.mul_zero]
  apply (s.balance_allMetrics (.rejected reason)).trans
  rw [hb.balance, nothing, total_rejected, Nat.zero_add]
  exact add_zero _

private theorem Books.balance_of_silent (hb : s.Books limit done verdicts)
    (rest : s.inProgress = 0) {a : Account} (each : Nat) (gone : Stage.gone.share a = each)
    (silent : ∀ verdict : Verdict, verdict.share a = 0) :
    s.metrics.balance a = .ofNat (s.connections.length * each) := by
  rw [hb.balance_of_rest rest, total_eq_zero _ silent, gone, Nat.add_zero]

private theorem Books.balance_of_delivered (hb : s.Books limit done verdicts)
    (rest : s.inProgress = 0) {a : Account} {bytes : Event → UInt64}
    (gone : Stage.gone.share a = 0)
    (delivery : ∀ e, (Verdict.delivered e).share a = (bytes e).toNat)
    (rejection : ∀ reason, (Verdict.rejected reason).share a = 0) :
    s.metrics.balance a + 0 = ((delivered verdicts).map bytes).sum := by
  rw [hb.balance_of_rest rest, gone, Nat.mul_zero, Nat.zero_add, add_zero]
  exact total_delivered verdicts delivery rejection

/-- When no session is in progress, every session has been counted. -/
theorem Books.connections (hb : s.Books limit done verdicts) (rest : s.inProgress = 0) :
    s.allMetrics.counter .totalConnections = .ofNat s.connections.length := by
  apply (s.balance_allMetrics .total).trans
  rw [hb.balance_of_silent rest 1 rfl fun verdict => by cases verdict <;> rfl, Nat.mul_one]
  exact add_zero _

/-- When no session is in progress, every session was closed or refused for want of a place. -/
theorem Books.ended (hb : s.Books limit done verdicts) (rest : s.inProgress = 0) :
    s.allMetrics.counter .closedConnections + s.allMetrics.rejected .admission =
      .ofNat s.connections.length := by
  apply (s.balance_allMetrics .ended).trans
  rw [hb.balance_of_silent rest 1 rfl fun verdict => by cases verdict <;> rfl, Nat.mul_one]
  exact add_zero _

/-- When no session is in progress, the calls of the collector that were counted are the
deliveries. -/
theorem Books.called (hb : s.Books limit done verdicts) (rest : s.inProgress = 0)
    (own : outside done = []) :
    s.allMetrics.counter .eventsCollected + s.allMetrics.dropped .collector =
      .ofNat (delivered verdicts).length := by
  apply (s.balance_allMetrics .called).trans
  rw [hb.balance_of_silent rest 0 rfl fun verdict => by cases verdict <;> rfl, hb.calls, own]
  simp

/-- When no session is in progress, a connection that was closed had its event collected, dropped,
or was rejected. -/
theorem Books.closed (hb : s.Books limit done verdicts) (rest : s.inProgress = 0)
    (own : outside done = []) : s.allMetrics.counter .closedConnections =
      s.allMetrics.counter .eventsCollected + s.allMetrics.dropped .collector +
        (RejectReason.afterAdmission.map s.allMetrics.rejected).sum := by
  have later : (RejectReason.afterAdmission.map s.allMetrics.rejected).sum =
      .ofNat (RejectReason.afterAdmission.map (reasons verdicts).count).sum := by
    simp only [RejectReason.afterAdmission, List.map_cons, List.map_nil, List.sum_cons,
      List.sum_nil, hb.rejected, UInt64.ofNat_add]
    rfl
  have length : verdicts.length = s.connections.length := by simpa using (hb.perm rest).length_eq
  -- Sessions that found no place are on both sides.
  apply add_right_cancel (b := s.allMetrics.rejected .admission)
  rw [hb.ended rest, hb.rejected, hb.called rest own, later, ← UInt64.ofNat_add,
    ← UInt64.ofNat_add, ← length,
    length_verdicts, RejectReason.length_eq]
  congr 1
  omega

/-- What was counted adds up when no session is in progress. -/
theorem Books.settled (hb : s.Books limit done verdicts) (rest : s.inProgress = 0) :
    s.Settled done verdicts where
  active := by
    apply Int64.toInt_inj.mp
    rw [hb.gauge, tally_of_rest rest]
    rfl
  places := by
    rw [hb.places, tally_of_rest rest]
    rfl
  connections := (hb.connections rest).trans (hb.ended rest).symm
  closed := hb.closed rest
  latencies := by
    rw [allMetrics, (Notice.foldr_count_sessions s.pipeline.notices s.metrics).2.2,
      hb.latencies, tally_of_rest rest]
    exact Nat.zero_add _
  bytesIn := (s.balance_allMetrics .bytesIn).trans
    (hb.balance_of_delivered rest rfl (fun _ => rfl) fun _ => rfl)
  bytesOut := (s.balance_allMetrics .bytesOut).trans
    (hb.balance_of_delivered rest rfl (fun _ => rfl) fun _ => rfl)
  each := hb.perm rest

end

/-- A server that starts has empty books. -/
theorem books_start {settings : PipelineSettings} {store : σ} {pipeline : State σ}
    (h : State.start? settings store = some pipeline) (proxy : ProxySettings) (rate : RateSettings)
    (patience : Clock.Span) :
    (Server.start proxy rate patience pipeline).Books proxy.maxConnections.toNat [] [] where
  balance a := by cases a <;> rfl
  latencies := rfl
  limit := rfl
  places := rfl
  within := Nat.zero_le _
  room := Nat.zero_le _
  calls := by
    have taken : pipeline.taken = [] := State.entries_start h (fun _ _ _ => rfl) fun _ => rfl
    have turned : pipeline.turned = [] := State.entries_start h (fun _ _ _ => rfl) fun _ => rfl
    show (pipeline.taken + pipeline.turned : Multiset Event) = _
    rw [taken, turned]
    rfl
  once := List.nodup_nil
  ruled n := by
    constructor
    · rintro ⟨v, here, -⟩
      cases here
    · exact nofun

variable [Repository σ] {s₀ s : Server σ} {actions : List Action}

/-- In every run the books are kept. -/
theorem run_books {limit : Nat} (fresh : s₀.connections = []) (start : s₀.Books limit [] [])
    (run : s₀.run actions = some s) : s.Books limit actions (s₀.verdicts actions) := by
  refine run_induction (P := fun done s => s.Books limit done (s₀.verdicts done)) start ?_ run
  intro done s a s' ran books step
  rw [verdicts_append ran]
  exact books.turn ((Change.of_step step).turn (run_sound fresh ran))

/-- In every run an event that a session delivers has the byte counts with which its relaying
ended. -/
theorem run_relayed (fresh : s₀.connections = []) (run : s₀.run actions = some s) :
    ∀ n e, (n, .delivered e) ∈ s₀.verdicts actions →
      ∃ bytesIn bytesOut, Relayed actions n e bytesIn bytesOut := by
  refine run_induction (P := fun done _ => ∀ n e, (n, .delivered e) ∈ s₀.verdicts done →
    ∃ bytesIn bytesOut, Relayed done n e bytesIn bytesOut) nofun ?_ run
  intro done s a s' ran before step n e ruled
  rw [verdicts_append ran, List.mem_append] at ruled
  cases ruled with
  | inl earlier =>
    obtain ⟨bytesIn, bytesOut, relayed⟩ := before n e earlier
    exact ⟨bytesIn, bytesOut, relayed.append a⟩
  | inr now =>
    have verdict : s.verdict? a = some (n, .delivered e) := Option.mem_toList.mp now
    have change := Change.of_step step
    rw [verdict] at change
    cases change with
    | deliver here =>
      obtain ⟨bytesIn, bytesOut, relayed⟩ := run_sound fresh ran n _ here
      exact ⟨bytesIn, bytesOut, relayed.append (.settle n)⟩

/-- In every run of a server, from its start and whatever happens in which order, every session is
accounted for. -/
theorem run_balanced {settings : PipelineSettings} {store : σ} {pipeline : State σ}
    {proxy : ProxySettings} {rate : RateSettings} {patience : Clock.Span}
    (start : State.start? settings store = some pipeline)
    (run : (Server.start proxy rate patience pipeline).run actions = some s) :
    s.Balanced proxy.maxConnections.toNat actions
      ((Server.start proxy rate patience pipeline).verdicts actions) := by
  have books := run_books rfl (books_start start proxy rate patience) run
  exact {
    nonneg := by
      rw [books.gauge]
      exact Int.natCast_nonneg _
    active := by
      rw [books.gauge, books.places]
      exact_mod_cast s.active_le_places
    places := books.limit ▸ books.within
    once := books.once
    calls := books.calls
    rejections := books.rejected
    relayed := fun n e delivered => by
      obtain ⟨bytesIn, bytesOut, relayed⟩ := run_relayed rfl run n e delivered
      obtain ⟨told, told'⟩ := relayed.told
      obtain ⟨fault, -, -, -, -, finish, -⟩ := relayed
      exact ⟨fault, told.symm ▸ told'.symm ▸ finish⟩
    settled := books.settled }

private def client : Endpoint := ⟨.unspecified, 4000⟩

private def hello : Wire :=
  { pieces := [greeting [0], request 0x01 0 (.address ⟨.unspecified, 80⟩)] }

private def small : PipelineSettings := { workers := 1, inputCapacity := 1, outputCapacity := 1 }

private def narrow (pipeline : State Memory) : Server Memory :=
  start { maxConnections := 1 } {} (.ofSeconds 10) pipeline

private def threeSessions : List Action :=
  [.arrive client, .arrive client, .count 0, .enter 0, .count 1, .enter 1, .activate 0,
    .limit 0 5, .converse 0 hello (fun _ => .ok ⟨none, none⟩) ⟨5, 0⟩ 3, .settle 1,
    .finish 0 40 2 (some .connectionReset), .countIn 0, .countOut 0, .settle 0, .deactivate 0,
    .close 0, .leave 0, .arrive client, .count 2, .enter 2, .activate 2, .limit 2 6,
    .converse 2 { pieces := [] } (fun _ => .error .refused) ⟨6, 0⟩ 0, .settle 2, .deactivate 2,
    .close 2, .leave 2]

/-- One session relays while the next finds no place, and a third says nothing. -/
theorem run_balanced_three_sessions : ∃ (pipeline : State Memory) (s : Server Memory),
    State.start? small {} = some pipeline ∧ (narrow pipeline).run threeSessions = some s ∧
      s.inProgress = 0 ∧ ((narrow pipeline).verdicts threeSessions).map Prod.fst = [1, 0, 2] ∧
      s.Balanced 1 threeSessions ((narrow pipeline).verdicts threeSessions) := by
  have ran : ∃ (pipeline : State Memory) (s : Server Memory),
      State.start? small {} = some pipeline ∧ (narrow pipeline).run threeSessions = some s ∧
        s.inProgress = 0 ∧ ((narrow pipeline).verdicts threeSessions).map Prod.fst = [1, 0, 2] :=
    ⟨_, _, rfl, rfl, rfl, rfl⟩
  obtain ⟨pipeline, s, started, run, rest, ruled⟩ := ran
  exact ⟨pipeline, s, started, run, rest, ruled, run_balanced started run⟩

end Server
end ProxyMeter.Session
