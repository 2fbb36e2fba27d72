import ProxyMeter.Proofs.Session.Accounting

/-!
# What sessions relay

A relay is what becomes known of a session when its relaying ends. Its event is in the session's
hands until the session is ruled on, and is delivered then. The pipeline changes by its own steps
only, whatever the sessions do.
-/

namespace ProxyMeter.Session

open Calendar Gate Pipeline Socks Store Traffic

/-- A session that has relayed: its client, what was opened for it and when, how long the dial took,
and how many bytes came in and went out. -/
structure Relay where
  peer : Endpoint
  opened : Opened
  since : Instant
  latencyMs : Nat
  bytesIn : UInt64
  bytesOut : UInt64

namespace Relay

/-- The client, as it is recorded. -/
def client (r : Relay) : String := clientName r.peer

/-- The event that is made of a relay. -/
def event (r : Relay) : Event :=
  Server.event r.peer r.opened r.since r.latencyMs r.bytesIn r.bytesOut

end Relay

/-- The events in the hands of a session. -/
def Stage.inHand : Stage → Multiset Event
  | .relayed e _ _ | .countedIn e _ | .measured e => {e}
  | _ => 0

namespace Server

variable {σ : Type}

/-- The relay that ends with an action. -/
def relay? (s : Server σ) : Action → Option Relay
  | .finish n bytesIn bytesOut _ =>
    match s.connections[n]? with
    | some ⟨peer, .relaying opened since latencyMs⟩ =>
      some { peer, opened, since, latencyMs, bytesIn, bytesOut }
    | _ => none
  | _ => none

/-- The relays of a run, in the order in which they end. -/
def relays [Repository σ] (s : Server σ) (actions : List Action) : List Relay :=
  seen step relay? s actions

/-- The events in the hands of all sessions. -/
def inHand (s : Server σ) : Multiset Event := (s.connections.map fun v => v.stage.inHand).sum

/-- A session that goes to another stage changes what is in its hands only. -/
theorem inHand_set {s s' : Server σ} {n : Nat} {v v' : Connection}
    (here : s.connections[n]? = some v) (connections : s'.connections = s.connections.set n v') :
    s'.inHand + v.stage.inHand = s.inHand + v'.stage.inHand := by
  rw [inHand, connections]
  exact sum_map_set (fun v => v.stage.inHand) here v'

/-- A relay puts an event into the hands of a session, and a delivery takes one from there. -/
theorem Change.inHand_eq [Repository σ] {s s' : Server σ} {a : Action}
    {verdict : Option (Nat × Verdict)} (h : s.Change a verdict s') :
    s'.inHand + delivered verdict.toList =
      s.inHand + ((s.relay? a).toList.map Relay.event : List Event) := by
  have moved {n : Nat} {v v' : Connection} (here : s.connections[n]? = some v)
      (connections : s'.connections = s.connections.set n v') :
      s'.inHand + v.stage.inHand = s.inHand + v'.stage.inHand := inHand_set here connections
  have still {n : Nat} {v v' : Connection} (here : s.connections[n]? = some v)
      (connections : s'.connections = s.connections.set n v')
      (same : v.stage.inHand = v'.stage.inHand) :
      s'.inHand + 0 = s.inHand + 0 := by
    have moved := moved here connections
    rw [same] at moved
    rw [add_right_cancel moved]
  cases h with
  | arrive peer => simp [inHand, Stage.inHand, relay?, delivered]
  | count here | enter here | turnAway here | activate here | pass here | throttle here
  | countIn here | countOut here | close here | leave here => exact still here rfl rfl
  | relay since latencyMs here | fail since latencyMs here => exact still here rfl rfl
  | @finish n peer o since latencyMs bytesIn bytesOut fault here =>
    rw [relay?, here]
    exact moved here (by rw [connections_put, connections_logBreak])
  | deliver here => exact moved here rfl
  | reject here => exact still here (connections_reject _ _ _ _ s) rfl
  | @rejectFull n peer here =>
    exact still here (connections_reject n peer (.admission s.pool.limit) .gone s) rfl
  | @deactivate n peer here =>
    have connections :=
      connections_put n peer .inactive (s.counting fun m => (m.shiftActive (-1)).2)
    rw [connections_counting] at connections
    exact still here connections rfl
  | allow | deny | pipeline => rfl

/-- A server changes its pipeline by a step of the pipeline or not at all. -/
theorem Change.pipeline_eq_or [Repository σ] {s s' : Server σ} {a : Action}
    {verdict : Option (Nat × Verdict)} (h : s.Change a verdict s') :
    s'.pipeline = s.pipeline ∨ ∃ a, State.Change s.pipeline a s'.pipeline := by
  cases h with
  | @finish n peer o since latencyMs bytesIn bytesOut fault here =>
    obtain ⟨lines, logged⟩ := logBreak_eq peer o fault s
    rw [logged]
    exact .inl rfl
  | @deliver n peer e here => exact .inr ⟨_, .of_collect s.pipeline e⟩
  | @reject n peer failure here =>
    obtain ⟨lines, rejected⟩ := reject_eq n peer failure .settled s
    rw [rejected]
    exact .inl rfl
  | @rejectFull n peer here =>
    obtain ⟨lines, rejected⟩ := reject_eq n peer (.admission s.pool.limit) .gone s
    rw [rejected]
    exact .inl rfl
  | pipeline change => exact .inr ⟨_, .of_step change⟩
  | deactivate => exact .inl (by rw [pipeline_put, pipeline_counting])
  | _ => exact .inl rfl

section
variable [Repository σ] {s₀ s : Server σ} {actions : List Action}

/-- What every step of the pipeline keeps holds of the pipeline in every run of the server. -/
theorem run_pipeline {P : State σ → Prop} (start : P s₀.pipeline)
    (next : ∀ a s s', P s → State.Change s a s' → P s') (run : s₀.run actions = some s) :
    P s.pipeline := by
  refine run_induction (P := fun _ s => P s.pipeline) start ?_ run
  intro done s a s' ran before step
  obtain same | ⟨a, change⟩ := (Change.of_step step).pipeline_eq_or
  · rwa [same]
  · exact next a _ _ before change

/-- In every run what was relayed has been delivered or is in the hands of sessions. -/
theorem run_relays (fresh : s₀.connections = []) (run : s₀.run actions = some s) :
    s.inHand + delivered (s₀.verdicts actions) =
      ((s₀.relays actions).map Relay.event : List Event) := by
  refine run_induction (P := fun done (s : Server σ) => s.inHand + delivered (s₀.verdicts done) =
    ((s₀.relays done).map Relay.event : List Event)) ?_ ?_ run
  · rw [inHand, fresh]
    rfl
  · intro done s a s' ran before step
    have moved := (Change.of_step step).inHand_eq
    calc s'.inHand + delivered (s₀.verdicts (done ++ [a]))
        = delivered (s₀.verdicts done) + (s'.inHand + delivered (s.verdict? a).toList) := by
          rw [verdicts_append ran, delivered, List.filterMap_append, ← Multiset.coe_add, delivered,
            delivered]
          abel
      _ = s.inHand + delivered (s₀.verdicts done) +
            ((s.relay? a).toList.map Relay.event : List Event) := by
          rw [moved]
          abel
      _ = ((s₀.relays (done ++ [a])).map Relay.event : List Event) := by
          rw [before, relays, relays, seen_append relay? ran, List.map_append, Multiset.coe_add]

/-- When no session is in progress, what was relayed has been delivered. -/
theorem delivered_perm (fresh : s₀.connections = []) (run : s₀.run actions = some s)
    (rest : s.inProgress = 0) :
    (delivered (s₀.verdicts actions)).Perm ((s₀.relays actions).map Relay.event) := by
  have idle : s.inHand = 0 := by
    rw [inHand, List.map_congr_left fun v here => congrArg Stage.inHand (gone_of_rest rest here)]
    simp [Stage.inHand]
  rw [← Multiset.coe_eq_coe, ← run_relays fresh run, idle, zero_add]

end

end Server
end ProxyMeter.Session
