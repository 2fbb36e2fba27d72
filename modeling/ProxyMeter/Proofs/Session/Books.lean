import Mathlib.Algebra.Order.BigOperators.Group.List
import Mathlib.Algebra.Order.Group.Nat
import ProxyMeter.Proofs.Pipeline.Accounting
import ProxyMeter.Proofs.Session.Accounts
import ProxyMeter.Proofs.Session.History

/-!
# The books of a server

An account holds what the sessions have added at their stages and what the verdicts have added. A
step moves one session from a stage to another, and what it changes in the accounts is the
difference between the two.
-/

namespace ProxyMeter.Session

open Calendar Gate Pipeline Socks Store Traffic

/-- The events that verdicts delivered. -/
def delivered (verdicts : List (Nat × Verdict)) : List Event :=
  verdicts.filterMap fun v => v.2.event?

/-- What verdicts have added to an account. -/
def total (verdicts : List (Nat × Verdict)) (a : Account) : Nat :=
  (verdicts.map fun v => v.2.share a).sum

namespace Server

variable {σ : Type}

/-- The event with which somebody else calls the collector. -/
def Action.offer? : Action → Option Event
  | .pipeline a => a.offer?
  | _ => none

/-- The events with which somebody else calls the collector. -/
def outside (actions : List Action) : List Event := actions.filterMap Action.offer?

/-- A sum over the stages of all sessions. -/
def tally (f : Stage → Nat) (s : Server σ) : Nat := (s.connections.map fun v => f v.stage).sum

/-- The events with which the collector of the pipeline was called. -/
def calls (s : Server σ) : Multiset Event := s.pipeline.taken + s.pipeline.turned

/-- A session goes from one stage to another, and may be ruled on. What it has added to the accounts
afterwards is what it has added before and what the accounts have gained. -/
structure Move (s : Server σ) (n : Nat) (v : Connection) (stage : Stage)
    (verdict : Option (Nat × Verdict)) (s' : Server σ) : Prop where
  here : s.connections[n]? = some v
  connections : s'.connections = s.connections.set n { v with stage } := by rfl
  present : v.isPresent = true := by rfl
  balance : ∀ a, s'.metrics.balance a + .ofNat (v.stage.share a) =
    s.metrics.balance a + .ofNat (stage.share a + total verdict.toList a)
  latencies : s'.metrics.connectionLatency.count + v.stage.latencies =
    s.metrics.connectionLatency.count + (stage.latencies + (delivered verdict.toList).length) := by
      rfl
  limit : s'.pool.limit = s.pool.limit := by rfl
  places : v.stage.places ≤ s.pool.active →
    s'.pool.active + v.stage.places = s.pool.active + stage.places := by intro; rfl
  within : s.pool.active ≤ s.pool.limit → s'.pool.active ≤ s.pool.limit := by exact id
  calls : s'.calls = s.calls + delivered verdict.toList := by exact (add_zero _).symm
  ruled : stage.isRuled = (v.stage.isRuled || verdict.isSome) := by rfl
  once : ∀ verdict' ∈ verdict, verdict'.1 = n ∧ v.stage.isRuled = false := by exact nofun
  /-- From a failure it goes on to the verdict for that. -/
  failed : ∀ failure, v.stage = .failed failure →
    verdict = some (n, .rejected failure.reason) := by exact nofun

/-- What a step comes to: a session begins, a session moves, or no session is concerned. -/
inductive Turn (s : Server σ) : Action → Option (Nat × Verdict) → Server σ → Prop
  | arrive (peer : Endpoint) (room : s.inProgress < widest) :
      Turn s (.arrive peer) none { s with connections := s.connections ++ [{ peer }] }
  | move {a : Action} {n : Nat} {v : Connection} {verdict : Option (Nat × Verdict)} {s' : Server σ}
      (inner : a.offer? = none) (stage : Stage) (move : s.Move n v stage verdict s') :
      Turn s a verdict s'
  | aside {a : Action} {s' : Server σ} (connections : s'.connections = s.connections)
      (metrics : s'.metrics = s.metrics) (pool : s'.pool = s.pool)
      (calls : s'.calls = s.calls + outside [a]) : Turn s a none s'

private theorem balance_of_gains {m m' : Metrics} {gain before after : Account → Nat}
    (gains : m.Gains m' gain) (h : ∀ a, gain a + before a = after a) (a : Account) :
    m'.balance a + .ofNat (before a) = m.balance a + .ofNat (after a) := by
  rw [gains a, ← h a, UInt64.ofNat_add, add_assoc]

private theorem balance_of_losses {m m' : Metrics} {loss before after : Account → Nat}
    (losses : m'.Gains m loss) (h : ∀ a, before a = loss a + after a) (a : Account) :
    m'.balance a + .ofNat (before a) = m.balance a + .ofNat (after a) := by
  rw [losses a, h a, UInt64.ofNat_add, add_assoc]

/-- Collecting calls the collector. -/
theorem calls_collect [Repository σ] (e : Event) (s : Server σ) :
    ({ s with pipeline := s.pipeline.collect e } : Server σ).calls = s.calls + [e] :=
  (Pipeline.State.Change.of_collect s.pipeline e).offered_eq

/-- The event of a session says how many bytes it relayed. -/
theorem Relayed.told {done : List Action} {n : Nat} {e : Event} {bytesIn bytesOut : UInt64}
    (h : Relayed done n e bytesIn bytesOut) : e.inflow = bytesIn ∧ e.outflow = bytesOut := by
  obtain ⟨-, -, -, -, -, -, rfl⟩ := h
  exact ⟨ofInt_toInt_toInt64 bytesIn, ofInt_toInt_toInt64 bytesOut⟩

/-- A session that is not counted as active any more changes the gauge and its stage. -/
theorem deactivated_eq (n : Nat) (peer : Endpoint) (s : Server σ) :
    ∃ gauge, Metrics.Gains { s.metrics with activeConnections := gauge } s.metrics
        (fun a => match a with | .active => 1 | _ => 0) ∧
      (s.counting fun m => (m.shiftActive (-1)).2).put n peer .inactive =
        { s with metrics := { s.metrics with activeConnections := gauge } }.put n peer .inactive :=
  ⟨_, s.metrics.shiftActive_gains, rfl⟩

/-- A session with a verdict on it. -/
def IsRuled (s : Server σ) (n : Nat) : Prop :=
  ∃ v, s.connections[n]? = some v ∧ v.stage.isRuled = true

variable [Repository σ] {s s' : Server σ}

/-- Every step is a turn, if the stages tell the truth. -/
theorem Change.turn {s₀ : Server σ} {done : List Action} {a : Action}
    {verdict : Option (Nat × Verdict)}
    (sound : ∀ n v, s.connections[n]? = some v → Sound s₀ done n v) (h : s.Change a verdict s') :
    s.Turn a verdict s' := by
  cases h with
  | arrive peer room => exact .arrive peer room
  | count here =>
    exact .move rfl .counted {
      here
      balance := balance_of_gains (s.metrics.gains_tick _) fun a => by cases a <;> rfl }
  | enter here room =>
    exact .move rfl .admitted {
      here
      balance := balance_of_gains (.refl _) fun a => by cases a <;> rfl
      within := fun _ => room }
  | turnAway here =>
    exact .move rfl .turnedAway {
      here
      balance := balance_of_gains (.refl _) fun a => by cases a <;> rfl }
  | activate here =>
    exact .move rfl .active {
      here
      balance := balance_of_gains s.metrics.gains_shiftActive fun a => by cases a <;> rfl }
  | pass here =>
    exact .move rfl .passed {
      here
      balance := balance_of_gains (.refl _) fun a => by cases a <;> rfl }
  | throttle here =>
    exact .move rfl (.failed _) {
      here
      balance := balance_of_gains (.refl _) fun a => by cases a <;> rfl }
  | @relay n peer wire dial o since latencyMs here =>
    have observed := s.metrics.connectionLatency.count_observe (Float.ofNat latencyMs)
    obtain ⟨lines, opened⟩ := opened_eq n peer o since latencyMs s
    rw [opened]
    exact .move rfl (.relaying o since latencyMs) {
      here
      balance := balance_of_gains (s.metrics.gains_observe _) fun a => by cases a <;> rfl
      latencies := observed }
  | fail since latencyMs here =>
    exact .move rfl (.failed _) {
      here
      balance := balance_of_gains (.refl _) fun a => by cases a <;> rfl }
  | @finish n peer o since latencyMs bytesIn bytesOut fault here =>
    obtain ⟨lines, logged⟩ := logBreak_eq peer o fault s
    rw [logged]
    exact .move rfl (.relayed _ bytesIn bytesOut) {
      here
      balance := balance_of_gains (.refl _) fun a => by cases a <;> rfl }
  | @countIn n peer e bytesIn bytesOut here =>
    have told : e.inflow = bytesIn := (Relayed.told (sound n _ here)).1
    exact .move rfl (.countedIn e bytesOut) {
      here
      balance := balance_of_gains (s.metrics.gains_increase _ _) fun a => by
        subst told
        cases a <;> rfl }
  | @countOut n peer e bytesOut here =>
    have told : e.outflow = bytesOut := (sound n _ here).choose_spec.told.2
    exact .move rfl (.measured e) {
      here
      balance := balance_of_gains (s.metrics.gains_increase _ _) fun a => by
        subst told
        cases a with
        | bytesIn => exact Nat.zero_add _
        | _ => rfl }
  | @deliver n peer e here =>
    obtain ⟨lines, delivered⟩ := deliver_eq n peer e s
    rw [delivered]
    exact .move rfl .settled {
      here
      balance := balance_of_gains (.refl _) fun a => by cases a <;> rfl
      calls := calls_collect e s
      once := by
        rintro _ ⟨⟩
        exact ⟨rfl, rfl⟩ }
  | @reject n peer failure here =>
    have reason : failure.reason ≠ .admission := sound n _ here
    obtain ⟨lines, rejected⟩ := reject_eq n peer failure .settled s
    rw [rejected]
    exact .move rfl .settled {
      here
      balance := balance_of_gains (s.metrics.gains_recordRejected _) fun a => by
        cases a with
        | ended => exact if_neg reason
        | rejected r => exact Nat.add_comm _ _
        | _ => rfl
      once := by
        rintro _ ⟨⟩
        exact ⟨rfl, rfl⟩
      failed := by
        rintro _ ⟨⟩
        rfl }
  | @rejectFull n peer here =>
    obtain ⟨lines, rejected⟩ := reject_eq n peer (.admission s.pool.limit) .gone s
    rw [rejected]
    exact .move rfl .gone {
      here
      balance := balance_of_gains (s.metrics.gains_recordRejected _) fun a => by
        cases a with
        | rejected r => exact Nat.add_comm _ _
        | _ => rfl
      once := by
        rintro _ ⟨⟩
        exact ⟨rfl, rfl⟩ }
  | @deactivate n peer here =>
    obtain ⟨gauge, losses, shifted⟩ := deactivated_eq n peer s
    rw [shifted]
    exact .move rfl .inactive {
      here
      balance := balance_of_losses losses fun a => by cases a <;> rfl }
  | close here =>
    exact .move rfl .closed {
      here
      balance := balance_of_gains (s.metrics.gains_tick _) fun a => by cases a <;> rfl }
  | leave here =>
    exact .move rfl .gone {
      here
      balance := balance_of_gains (.refl _) fun a => by cases a <;> rfl
      places := fun held => Nat.sub_add_cancel held
      within := fun within => (Nat.sub_le _ _).trans within }
  | allow | deny => exact .aside rfl rfl rfl (add_zero _).symm
  | @pipeline a pipeline change =>
    exact .aside rfl rfl rfl (Pipeline.State.Change.of_step change).offered_eq

omit [Repository σ]

/-- A session that moves changes a sum over the stages by the difference. -/
theorem Move.tally_eq {n : Nat} {v : Connection} {stage : Stage} {verdict : Option (Nat × Verdict)}
    (h : s.Move n v stage verdict s') (f : Stage → Nat) :
    s'.tally f + f v.stage = s.tally f + f stage := by
  rw [tally, h.connections]
  exact sum_map_set (fun v => f v.stage) h.here { v with stage }

/-- A session that moves does not add to those in progress. -/
theorem Move.inProgress_le {n : Nat} {v : Connection} {stage : Stage}
    {verdict : Option (Nat × Verdict)} (h : s.Move n v stage verdict s') :
    s'.inProgress ≤ s.inProgress := by
  obtain ⟨bound, here⟩ := List.getElem?_eq_some_iff.mp h.here
  have present : 0 < s.inProgress :=
    List.countP_pos_iff.mpr ⟨v, List.mem_of_getElem? h.here, h.present⟩
  rw [inProgress] at present
  rw [inProgress, inProgress, h.connections, List.countP_set bound, here, if_pos h.present]
  split <;> omega

/-- A session that moves is ruled on if it was or if the move rules on it. -/
theorem Move.isRuled_iff {n : Nat} {v : Connection} {stage : Stage}
    {verdict : Option (Nat × Verdict)} (h : s.Move n v stage verdict s') (m : Nat) :
    s'.IsRuled m ↔ s.IsRuled m ∨ m ∈ verdict.toList.map Prod.fst := by
  obtain ⟨bound, -⟩ := List.getElem?_eq_some_iff.mp h.here
  by_cases same : m = n
  · subst same
    have after : s'.connections[m]? = some { v with stage } := by
      rw [h.connections, List.getElem?_set_self bound]
    have ruling : m ∈ verdict.toList.map Prod.fst ↔ verdict.isSome = true := by
      cases named : verdict with
      | none => simp
      | some ruling =>
        have here : ruling.1 = m := (h.once ruling named).1
        simp [here]
    simp [IsRuled, h.here, after, ruling, h.ruled]
  · have other : m ∉ verdict.toList.map Prod.fst := by
      cases named : verdict with
      | none => simp
      | some ruling =>
        have here : ruling.1 = n := (h.once ruling named).1
        simpa [here] using same
    simp [IsRuled, h.connections, List.getElem?_set_ne (Ne.symm same), other]

/-- The balance of every account, the places in the pool, the calls of the collector, and the
verdicts, as the sessions account for them. -/
structure Books (limit : Nat) (done : List Action) (verdicts : List (Nat × Verdict))
    (s : Server σ) : Prop where
  balance : ∀ a, s.metrics.balance a = .ofNat (s.tally (·.share a) + total verdicts a)
  latencies : s.metrics.connectionLatency.count =
    s.tally Stage.latencies + (delivered verdicts).length
  limit : s.pool.limit = limit
  places : s.pool.active = s.tally Stage.places
  within : s.pool.active ≤ s.pool.limit
  room : s.inProgress ≤ widest
  calls : s.calls = delivered verdicts + outside done
  once : (verdicts.map Prod.fst).Nodup
  ruled : ∀ n, s.IsRuled n ↔ n ∈ verdicts.map Prod.fst

/-- A move keeps the books. -/
theorem Books.move {limit : Nat} {done : List Action} {verdicts : List (Nat × Verdict)} {n : Nat}
    {v : Connection} {stage : Stage} {verdict : Option (Nat × Verdict)}
    (hb : s.Books limit done verdicts) (h : s.Move n v stage verdict s') {a : Action}
    (inner : a.offer? = none) : s'.Books limit (done ++ [a]) (verdicts ++ verdict.toList) where
  balance account := by
    have tally := h.tally_eq (·.share account)
    refine add_right_cancel ((h.balance account).trans ?_)
    rw [hb.balance account, ← UInt64.ofNat_add, ← UInt64.ofNat_add, total, total, total,
      List.map_append, List.sum_append]
    congr 1
    omega
  latencies := by
    have tally := h.tally_eq Stage.latencies
    have count := h.latencies
    have before := hb.latencies
    rw [delivered, List.filterMap_append, List.length_append]
    rw [delivered] at before count
    omega
  limit := h.limit.trans hb.limit
  places := by
    have tally := h.tally_eq Stage.places
    have before := hb.places
    have held : v.stage.places ≤ s.pool.active := by
      rw [before]
      exact List.le_sum_of_mem (List.mem_map.mpr ⟨v, List.mem_of_getElem? h.here, rfl⟩)
    have places := h.places held
    omega
  within := by
    rw [h.limit]
    exact h.within hb.within
  room := h.inProgress_le.trans hb.room
  calls := by
    rw [h.calls, hb.calls, delivered, delivered, delivered, outside, outside,
      List.filterMap_append, List.filterMap_append, List.filterMap_cons_none inner,
      List.filterMap_nil, List.append_nil, ← Multiset.coe_add]
    exact add_right_comm _ _ _
  once := by
    rw [List.map_append, List.nodup_append]
    refine ⟨hb.once, ?_, ?_⟩
    · cases verdict <;> simp
    · rintro m earlier _ now rfl
      obtain ⟨ruling, named, rfl⟩ := List.mem_map.mp now
      obtain ⟨here, fresh⟩ := h.once ruling (Option.mem_toList.mp named)
      obtain ⟨v', there, ruled⟩ := (hb.ruled ruling.1).mpr earlier
      rw [here, h.here] at there
      cases there
      rw [fresh] at ruled
      cases ruled
  ruled m := by
    rw [h.isRuled_iff, hb.ruled, List.map_append, List.mem_append]

/-- A session that begins changes a sum over the stages by its own summand. -/
theorem tally_arrive (f : Stage → Nat) (peer : Endpoint) (s : Server σ) :
    ({ s with connections := s.connections ++ [{ peer }] } : Server σ).tally f =
      s.tally f + f .arrived := by
  simp [tally]

/-- A session that begins is not ruled on. -/
theorem isRuled_arrive (peer : Endpoint) (s : Server σ) (n : Nat) :
    ({ s with connections := s.connections ++ [{ peer }] } : Server σ).IsRuled n ↔ s.IsRuled n := by
  constructor
  · rintro ⟨v, here, ruled⟩
    refine forall_getElem?_append (P := fun n v => v.stage.isRuled = true → s.IsRuled n)
      (fun m v here ruled => ⟨v, here, ruled⟩) ?_ n v here ruled
    intro fresh
    cases fresh
  · rintro ⟨v, here, ruled⟩
    obtain ⟨bound, -⟩ := List.getElem?_eq_some_iff.mp here
    exact ⟨v, (List.getElem?_append_left bound).trans here, ruled⟩

/-- A session that begins keeps the books. -/
theorem Books.arrive {limit : Nat} {done : List Action} {verdicts : List (Nat × Verdict)}
    (hb : s.Books limit done verdicts) (peer : Endpoint) (room : s.inProgress < widest) :
    ({ s with connections := s.connections ++ [{ peer }] } : Server σ).Books limit
    (done ++ [.arrive peer])
      verdicts where
  balance account := by
    rw [tally_arrive]
    exact hb.balance account
  latencies := by
    rw [tally_arrive]
    exact hb.latencies
  limit := hb.limit
  places := by
    rw [tally_arrive]
    exact hb.places
  within := hb.within
  room := by
    rw [inProgress, List.countP_append]
    exact room
  calls := by
    rw [outside, List.filterMap_append, List.filterMap_cons_none rfl, List.filterMap_nil,
      List.append_nil]
    exact hb.calls
  once := hb.once
  ruled n := (isRuled_arrive peer s n).trans (hb.ruled n)

/-- A step that concerns no session keeps the books. -/
theorem Books.aside {limit : Nat} {done : List Action} {verdicts : List (Nat × Verdict)}
    {a : Action} (hb : s.Books limit done verdicts) (connections : s'.connections = s.connections)
    (metrics : s'.metrics = s.metrics) (pool : s'.pool = s.pool)
    (calls : s'.calls = s.calls + outside [a]) : s'.Books limit (done ++ [a]) verdicts := by
  have tally (f : Stage → Nat) : s'.tally f = s.tally f := by
    rw [Server.tally, connections, Server.tally]
  constructor
  · intro account
    rw [metrics, tally]
    exact hb.balance account
  · rw [metrics, tally]
    exact hb.latencies
  · rw [pool]
    exact hb.limit
  · rw [pool, tally]
    exact hb.places
  · rw [pool]
    exact hb.within
  · rw [inProgress, connections]
    exact hb.room
  · rw [calls, hb.calls, outside, outside, outside, List.filterMap_append, ← Multiset.coe_add,
      add_assoc]
  · exact hb.once
  · intro n
    rw [IsRuled, connections]
    exact hb.ruled n

/-- A turn keeps the books. -/
theorem Books.turn {limit : Nat} {done : List Action} {verdicts : List (Nat × Verdict)} {a : Action}
    {verdict : Option (Nat × Verdict)} (hb : s.Books limit done verdicts)
    (h : s.Turn a verdict s') : s'.Books limit (done ++ [a]) (verdicts ++ verdict.toList) := by
  cases h with
  | move inner stage move => exact hb.move move inner
  | arrive peer room =>
    rw [Option.toList_none, List.append_nil]
    exact hb.arrive peer room
  | aside connections metrics pool calls =>
    rw [Option.toList_none, List.append_nil]
    exact hb.aside connections metrics pool calls

end Server
end ProxyMeter.Session
