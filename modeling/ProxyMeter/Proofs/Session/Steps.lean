import ProxyMeter.Proofs.Runs
import ProxyMeter.Session.Server

/-!
# What one step of the server does

`Server.step` as a relation with one constructor for each way in which a step can go. A step that
settles a session gives a verdict on it: its event is delivered, or it is counted as rejected.
-/

namespace ProxyMeter.Session

open Calendar Gate Pipeline Socks Store Traffic

/-- What a session comes to. -/
inductive Verdict where
  | delivered (e : Event)
  | rejected (reason : RejectReason)

namespace Verdict

/-- The event that was delivered. -/
def event? : Verdict → Option Event
  | .delivered e => some e
  | .rejected _ => none

/-- The reason for a rejection. -/
def reason? : Verdict → Option RejectReason
  | .delivered _ => none
  | .rejected reason => some reason

end Verdict

namespace Server

variable {σ : Type}

/-- The verdict that an action gives, and the place of the session that it is about. -/
def verdict? (s : Server σ) : Action → Option (Nat × Verdict)
  | .settle n =>
    match s.connections[n]? with
    | some ⟨_, .measured e⟩ => some (n, .delivered e)
    | some ⟨_, .failed failure⟩ => some (n, .rejected failure.reason)
    | some ⟨_, .turnedAway⟩ => some (n, .rejected .admission)
    | _ => none
  | _ => none

/-- The verdicts of a run, the earliest first. -/
def verdicts [Repository σ] (s : Server σ) : List Action → List (Nat × Verdict)
  | [] => []
  | a :: rest => (s.verdict? a).toList ++ ((s.step a).map fun s' => s'.verdicts rest).getD []

/-- The verdicts are seen. -/
theorem verdicts_eq [Repository σ] (s : Server σ) (actions : List Action) :
    s.verdicts actions = seen step verdict? s actions := by
  induction actions generalizing s with
  | nil => rfl
  | cons a rest ih =>
    rw [verdicts, seen]
    cases s.step a with
    | none => rfl
    | some s' => rw [Option.map_some, Option.map_some, ih]

/-- The verdicts of a run and one more step are those of the run and that of the step. -/
theorem verdicts_append [Repository σ] {s s' : Server σ} {done : List Action}
    (run : s.run done = some s') (a : Action) :
    s.verdicts (done ++ [a]) = s.verdicts done ++ (s'.verdict? a).toList := by
  rw [verdicts_eq, verdicts_eq, seen_append verdict? run]

@[simp]
theorem connections_put (n : Nat) (peer : Endpoint) (stage : Stage) (s : Server σ) :
    (s.put n peer stage).connections = s.connections.set n ⟨peer, stage⟩ := rfl

@[simp]
theorem connections_counting (f : Metrics → Metrics) (s : Server σ) :
    (s.counting f).connections = s.connections := rfl

@[simp]
theorem pipeline_put (n : Nat) (peer : Endpoint) (stage : Stage) (s : Server σ) :
    (s.put n peer stage).pipeline = s.pipeline := rfl

@[simp]
theorem pipeline_counting (f : Metrics → Metrics) (s : Server σ) :
    (s.counting f).pipeline = s.pipeline := rfl

/-- A session that comes to be relaying changes the log, the latencies, and its stage. -/
theorem opened_eq (n : Nat) (peer : Endpoint) (o : Opened) (since : Instant) (latencyMs : Nat)
    (s : Server σ) : ∃ lines, s.opened n peer o since latencyMs =
      ({ s with lines }.counting fun m =>
        m.observe (Float.ofNat latencyMs) .connectionLatency).put n peer
          (.relaying o since latencyMs) :=
  ⟨_, rfl⟩

/-- A session that gives its event away changes the log, the pipeline, and its stage. -/
theorem deliver_eq (n : Nat) (peer : Endpoint) (e : Event) (s : Server σ) :
    ∃ lines, s.deliver n peer e =
      { s with lines, pipeline := s.pipeline.collect e }.put n peer .settled :=
  ⟨_, rfl⟩

/-- The fault of a relay changes the log only. -/
theorem logBreak_eq (peer : Endpoint) (o : Opened) (fault : Option StreamFault) (s : Server σ) :
    ∃ lines, s.logBreak peer o fault = { s with lines } := by
  cases fault with
  | none => exact ⟨s.lines, rfl⟩
  | some fault => exact ⟨_, rfl⟩

/-- A rejection changes the log, one count, and the stage. -/
theorem reject_eq (n : Nat) (peer : Endpoint) (failure : Failure) (after : Stage)
    (s : Server σ) : ∃ lines, s.reject n peer failure after =
      ({ s with lines }.counting fun m => m.recordRejected failure.reason).put n peer after := by
  rw [reject]
  split
  · exact ⟨_, rfl⟩
  · exact ⟨_, rfl⟩

/-- The fault of a relay changes no session. -/
theorem connections_logBreak (peer : Endpoint) (o : Opened) (fault : Option StreamFault)
    (s : Server σ) : (s.logBreak peer o fault).connections = s.connections := by
  obtain ⟨lines, logged⟩ := logBreak_eq peer o fault s
  rw [logged]

/-- A rejection changes the session that is rejected. -/
theorem connections_reject (n : Nat) (peer : Endpoint) (failure : Failure) (after : Stage)
    (s : Server σ) :
    (s.reject n peer failure after).connections = s.connections.set n ⟨peer, after⟩ := by
  obtain ⟨lines, rejected⟩ := reject_eq n peer failure after s
  rw [rejected, connections_put, connections_counting]

/-- A step of the server: what must hold before it, the verdict that it gives, and the server after
it. -/
inductive Change [Repository σ] (s : Server σ) :
    Action → Option (Nat × Verdict) → Server σ → Prop
  | arrive (peer : Endpoint) (room : s.inProgress < widest) :
      Change s (.arrive peer) none { s with connections := s.connections ++ [{ peer }] }
  | count {n : Nat} {peer : Endpoint} (here : s.connections[n]? = some ⟨peer, .arrived⟩) :
      Change s (.count n) none ((s.counting (·.tick .totalConnections)).put n peer .counted)
  | enter {n : Nat} {peer : Endpoint} (here : s.connections[n]? = some ⟨peer, .counted⟩)
      (room : s.pool.active < s.pool.limit) :
      Change s (.enter n) none
        ({ s with pool := { s.pool with active := s.pool.active + 1 } }.put n peer .admitted)
  | turnAway {n : Nat} {peer : Endpoint} (here : s.connections[n]? = some ⟨peer, .counted⟩)
      (full : s.pool.limit ≤ s.pool.active) :
      Change s (.enter n) none (s.put n peer .turnedAway)
  | activate {n : Nat} {peer : Endpoint} (here : s.connections[n]? = some ⟨peer, .admitted⟩) :
      Change s (.activate n) none
        (((s.log .debug s!"📥 新连接来自: {peer.render}").counting fun m =>
          (m.shiftActive 1).2).put n peer .active)
  | pass {n : Nat} {peer : Endpoint} {clock : Int} {limiter : RateLimiter Float}
      (here : s.connections[n]? = some ⟨peer, .active⟩)
      (allowed : s.limiter.allow (clientName peer) clock = (true, limiter)) :
      Change s (.limit n clock) none ({ s with limiter }.put n peer .passed)
  | throttle {n : Nat} {peer : Endpoint} {clock : Int} {limiter : RateLimiter Float}
      (here : s.connections[n]? = some ⟨peer, .active⟩)
      (limited : s.limiter.allow (clientName peer) clock = (false, limiter)) :
      Change s (.limit n clock) none
        ({ s with limiter }.put n peer (.failed (.rateLimited (clientName peer))))
  | relay {n : Nat} {peer : Endpoint} {wire : Wire} {dial : Target → Except DialFault Link}
      {o : Opened} (since : Instant) (latencyMs : Nat)
      (here : s.connections[n]? = some ⟨peer, .passed⟩)
      (opened : (converse s.rules (clientName peer) dial wire).outcome = .ok o) :
      Change s (.converse n wire dial since latencyMs) none (s.opened n peer o since latencyMs)
  | fail {n : Nat} {peer : Endpoint} {wire : Wire} {dial : Target → Except DialFault Link}
      {failure : Failure} (since : Instant) (latencyMs : Nat)
      (here : s.connections[n]? = some ⟨peer, .passed⟩)
      (failed : (converse s.rules (clientName peer) dial wire).outcome =
        .error (.failed failure)) :
      Change s (.converse n wire dial since latencyMs) none (s.put n peer (.failed failure))
  | finish {n : Nat} {peer : Endpoint} {o : Opened} {since : Instant} {latencyMs : Nat}
      (bytesIn bytesOut : UInt64) (fault : Option StreamFault)
      (here : s.connections[n]? = some ⟨peer, .relaying o since latencyMs⟩) :
      Change s (.finish n bytesIn bytesOut fault) none
        ((s.logBreak peer o fault).put n peer
          (.relayed (event peer o since latencyMs bytesIn bytesOut) bytesIn bytesOut))
  | countIn {n : Nat} {peer : Endpoint} {e : Event} {bytesIn bytesOut : UInt64}
      (here : s.connections[n]? = some ⟨peer, .relayed e bytesIn bytesOut⟩) :
      Change s (.countIn n) none
        ((s.counting fun m => (m.increase .bytesIn bytesIn).2).put n peer
          (.countedIn e bytesOut))
  | countOut {n : Nat} {peer : Endpoint} {e : Event} {bytesOut : UInt64}
      (here : s.connections[n]? = some ⟨peer, .countedIn e bytesOut⟩) :
      Change s (.countOut n) none
        ((s.counting fun m => (m.increase .bytesOut bytesOut).2).put n peer (.measured e))
  | deliver {n : Nat} {peer : Endpoint} {e : Event}
      (here : s.connections[n]? = some ⟨peer, .measured e⟩) :
      Change s (.settle n) (some (n, .delivered e)) (s.deliver n peer e)
  | reject {n : Nat} {peer : Endpoint} {failure : Failure}
      (here : s.connections[n]? = some ⟨peer, .failed failure⟩) :
      Change s (.settle n) (some (n, .rejected failure.reason))
        (s.reject n peer failure .settled)
  | rejectFull {n : Nat} {peer : Endpoint} (here : s.connections[n]? = some ⟨peer, .turnedAway⟩) :
      Change s (.settle n) (some (n, .rejected .admission))
        (s.reject n peer (.admission s.pool.limit) .gone)
  | deactivate {n : Nat} {peer : Endpoint} (here : s.connections[n]? = some ⟨peer, .settled⟩) :
      Change s (.deactivate n) none
        ((s.counting fun m => (m.shiftActive (-1)).2).put n peer .inactive)
  | close {n : Nat} {peer : Endpoint} (here : s.connections[n]? = some ⟨peer, .inactive⟩) :
      Change s (.close n) none ((s.counting (·.tick .closedConnections)).put n peer .closed)
  | leave {n : Nat} {peer : Endpoint} (here : s.connections[n]? = some ⟨peer, .closed⟩) :
      Change s (.leave n) none ({ s with pool := s.pool.leave }.put n peer .gone)
  | allow (ip : String) :
      Change s (.allow ip) none
        { s with rules := { s.rules with allowed := s.rules.allowed.insert ip } }
  | deny (ip : String) :
      Change s (.deny ip) none
        { s with rules := { s.rules with allowed := s.rules.allowed.erase ip } }
  | pipeline {a : Pipeline.Action} {pipeline : State σ}
      (change : s.pipeline.step a = some pipeline) :
      Change s (.pipeline a) none { s with pipeline }

/-- Every possible step of the server is one of these, with the verdict that it gives. -/
theorem Change.of_step [Repository σ] {s s' : Server σ} {a : Action} (h : s.step a = some s') :
    s.Change a (s.verdict? a) s' := by
  cases a with
  | arrive peer =>
    simp only [step] at h
    split at h
    · next room =>
      cases h
      exact .arrive peer room
    · cases h
  | count n =>
    simp only [step] at h
    split at h
    · next peer here =>
      cases h
      exact .count here
    · cases h
  | enter n =>
    simp only [step, ConnectionPool.enter?] at h
    split at h
    · next peer here =>
      split at h
      · next pool entered =>
        split at entered
        · next room =>
          cases entered
          cases h
          exact .enter here room
        · cases entered
      · next turned =>
        split at turned
        · cases turned
        · next full =>
          cases h
          exact .turnAway here (Nat.le_of_not_lt full)
    · cases h
  | activate n =>
    simp only [step] at h
    split at h
    · next peer here =>
      cases h
      exact .activate here
    · cases h
  | limit n clock =>
    simp only [step] at h
    split at h
    · next peer here =>
      cases h
      cases asked : s.limiter.allow (clientName peer) clock with
      | mk passes limiter =>
        cases passes with
        | true => exact .pass here asked
        | false => exact .throttle here asked
    · cases h
  | converse n wire dial since latencyMs =>
    simp only [step] at h
    split at h
    · next peer here =>
      split at h
      · next o opened =>
        cases h
        exact .relay since latencyMs here opened
      · next failure failed =>
        cases h
        exact .fail since latencyMs here failed
      · cases h
    · cases h
  | finish n bytesIn bytesOut fault =>
    simp only [step] at h
    split at h
    · next peer o since latencyMs here =>
      cases h
      exact .finish bytesIn bytesOut fault here
    · cases h
  | countIn n =>
    simp only [step] at h
    split at h
    · next peer e bytesIn bytesOut here =>
      cases h
      exact .countIn here
    · cases h
  | countOut n =>
    simp only [step] at h
    split at h
    · next peer e bytesOut here =>
      cases h
      exact .countOut here
    · cases h
  | settle n =>
    simp only [step] at h
    split at h
    · next peer e here =>
      cases h
      simpa [verdict?, here] using Change.deliver here
    · next peer failure here =>
      cases h
      simpa [verdict?, here] using Change.reject here
    · next peer here =>
      cases h
      simpa [verdict?, here] using Change.rejectFull here
    · cases h
  | deactivate n =>
    simp only [step] at h
    split at h
    · next peer here =>
      cases h
      exact .deactivate here
    · cases h
  | close n =>
    simp only [step] at h
    split at h
    · next peer here =>
      cases h
      exact .close here
    · cases h
  | leave n =>
    simp only [step] at h
    split at h
    · next peer here =>
      cases h
      exact .leave here
    · cases h
  | allow ip =>
    cases h
    exact .allow ip
  | deny ip =>
    cases h
    exact .deny ip
  | pipeline a =>
    simp only [step, Option.map_eq_some_iff] at h
    obtain ⟨pipeline, change, rfl⟩ := h
    exact .pipeline change

end Server
end ProxyMeter.Session
