import ProxyMeter.Proofs.Runs
import ProxyMeter.Proofs.Session.Conversation
import ProxyMeter.Proofs.Session.Steps

/-!
# How sessions got where they are

The stage of a session tells something about the steps that have been taken: that it got a place,
that the limiter let it pass, how many bytes it relayed, and what it failed with.
-/

namespace ProxyMeter.Session

open Calendar Gate Pipeline Socks Store Traffic

namespace Server

variable {σ : Type} [Repository σ]

/-- The session got a place in the pool. -/
def Entered (s₀ : Server σ) (done : List Action) (n : Nat) : Prop :=
  ∃ before after s, done = before ++ .enter n :: after ∧ s₀.run before = some s ∧
    s.pool.active < s.pool.limit

/-- The limiter let the session pass. -/
def Limited (s₀ : Server σ) (done : List Action) (n : Nat) (client : String) : Prop :=
  ∃ before after s clock, done = before ++ .limit n clock :: after ∧ s₀.run before = some s ∧
    (s.limiter.allow client clock).1 = true

/-- The session relayed so many bytes, and the event says so. -/
def Relayed (done : List Action) (n : Nat) (e : Event) (bytesIn bytesOut : UInt64) : Prop :=
  ∃ fault peer o since latencyMs, .finish n bytesIn bytesOut fault ∈ done ∧
    e = event peer o since latencyMs bytesIn bytesOut

/-- What the stage of a session tells about the steps that have been taken. -/
def Sound (s₀ : Server σ) (done : List Action) (n : Nat) (v : Connection) : Prop :=
  match v.stage with
  | .admitted | .active => Entered s₀ done n
  | .passed => Entered s₀ done n ∧ Limited s₀ done n (clientName v.peer)
  | .failed failure => failure.reason ≠ .admission
  | .relayed e bytesIn bytesOut => Relayed done n e bytesIn bytesOut
  | .countedIn e bytesOut => ∃ bytesIn, Relayed done n e bytesIn bytesOut
  | .measured e => ∃ bytesIn bytesOut, Relayed done n e bytesIn bytesOut
  | _ => True

omit [Repository σ] in
theorem Relayed.append {done : List Action} {n : Nat} {e : Event} {bytesIn bytesOut : UInt64}
    (h : Relayed done n e bytesIn bytesOut) (a : Action) :
    Relayed (done ++ [a]) n e bytesIn bytesOut := by
  obtain ⟨fault, peer, o, since, latencyMs, finish, told⟩ := h
  exact ⟨fault, peer, o, since, latencyMs, List.mem_append_left _ finish, told⟩

variable {s₀ s s' : Server σ} {done : List Action}

theorem Entered.append {n : Nat} (h : Entered s₀ done n) (a : Action) :
    Entered s₀ (done ++ [a]) n := by
  obtain ⟨before, after, s, rfl, run, room⟩ := h
  exact ⟨before, after ++ [a], s, by simp, run, room⟩

theorem Limited.append {n : Nat} {client : String} (h : Limited s₀ done n client) (a : Action) :
    Limited s₀ (done ++ [a]) n client := by
  obtain ⟨before, after, s, clock, rfl, run, allowed⟩ := h
  exact ⟨before, after ++ [a], s, clock, by simp, run, allowed⟩

/-- What a stage tells stays true when more steps are taken. -/
theorem Sound.append {n : Nat} {v : Connection} (h : Sound s₀ done n v) (a : Action) :
    Sound s₀ (done ++ [a]) n v := by
  obtain ⟨peer, stage⟩ := v
  cases stage with
  | admitted | active => exact Entered.append h a
  | passed => exact ⟨h.1.append a, h.2.append a⟩
  | failed => exact h
  | relayed => exact Relayed.append h a
  | countedIn =>
    obtain ⟨bytesIn, relayed⟩ := h
    exact ⟨bytesIn, relayed.append a⟩
  | measured =>
    obtain ⟨bytesIn, bytesOut, relayed⟩ := h
    exact ⟨bytesIn, bytesOut, relayed.append a⟩
  | _ => trivial

/-- Every step keeps what the stages tell true. -/
theorem sound_of_change {a : Action} {verdict : Option (Nat × Verdict)} (run : s₀.run done = some s)
    (sound : ∀ n v, s.connections[n]? = some v → Sound s₀ done n v) (h : s.Change a verdict s') :
    ∀ n v, s'.connections[n]? = some v → Sound s₀ (done ++ [a]) n v := by
  have kept (n : Nat) (v : Connection) (here : s.connections[n]? = some v) :
      Sound s₀ (done ++ [a]) n v :=
    (sound n v here).append a
  cases h with
  | arrive peer => exact forall_getElem?_append kept trivial
  | count | turnAway | close | leave => exact forall_getElem?_set kept trivial
  | deactivate =>
    rw [connections_put, connections_counting]
    exact forall_getElem?_set kept trivial
  | @relay n peer wire dial o since latencyMs =>
    obtain ⟨lines, opened⟩ := opened_eq n peer o since latencyMs s
    rw [opened]
    exact forall_getElem?_set kept trivial
  | @deliver n peer e =>
    obtain ⟨lines, delivered⟩ := deliver_eq n peer e s
    rw [delivered]
    exact forall_getElem?_set kept trivial
  | @reject n peer failure here =>
    obtain ⟨lines, rejected⟩ := reject_eq n peer failure .settled s
    rw [rejected]
    exact forall_getElem?_set kept trivial
  | @rejectFull n peer here =>
    obtain ⟨lines, rejected⟩ := reject_eq n peer (.admission s.pool.limit) .gone s
    rw [rejected]
    exact forall_getElem?_set kept trivial
  | enter here room =>
    exact forall_getElem?_set kept ⟨done, [], s, rfl, run, room⟩
  | @activate n peer here =>
    have entered : Entered s₀ (done ++ [.activate n]) n := kept _ _ here
    exact forall_getElem?_set kept entered
  | @pass n peer clock limiter here allowed =>
    refine forall_getElem?_set kept ⟨kept _ _ here, done, [], s, clock, rfl, run, ?_⟩
    rw [allowed]
  | throttle => exact forall_getElem?_set kept nofun
  | fail since latencyMs here failed =>
    exact forall_getElem?_set kept (reason_of_converse failed)
  | @finish n peer o since latencyMs bytesIn bytesOut fault here =>
    obtain ⟨lines, logged⟩ := logBreak_eq peer o fault s
    rw [logged]
    exact forall_getElem?_set kept ⟨fault, peer, o, since, latencyMs,
      List.mem_append_right _ (.head _), rfl⟩
  | countIn here => exact forall_getElem?_set kept ⟨_, kept _ _ here⟩
  | countOut here => exact forall_getElem?_set kept ⟨_, _, (kept _ _ here).choose_spec⟩
  | allow | deny | pipeline => exact kept

/-- In every run the stages tell the truth. -/
theorem run_sound (fresh : s₀.connections = []) (run : s₀.run done = some s) :
    ∀ n v, s.connections[n]? = some v → Sound s₀ done n v := by
  refine run_induction (P := fun done s => ∀ n v, s.connections[n]? = some v → Sound s₀ done n v)
    ?_ ?_ run
  · rw [fresh]
    exact nofun
  · intro done s a s' ran sound step
    exact sound_of_change ran sound (.of_step step)

/-- In every run the conversation of a session is what it is served with the pool that it met when
it entered, and the limiter that it met when that let it pass. -/
theorem converse_eq_serve (fresh : s₀.connections = []) (run : s₀.run done = some s) {n : Nat}
    {peer : Endpoint} (here : s.connections[n]? = some ⟨peer, .passed⟩)
    (dial : Target → Except DialFault Link) (w : Wire) :
    ∃ entering limiting clock s₁ s₂, entering ++ [.enter n] <+: done ∧
      limiting ++ [.limit n clock] <+: done ∧ s₀.run entering = some s₁ ∧
      s₀.run limiting = some s₂ ∧ Passes s₁.pool s₂.limiter clock (clientName peer) ∧
      converse s.rules (clientName peer) dial w =
        serve s₁.pool s₂.limiter clock s.rules (clientName peer) dial w := by
  obtain ⟨⟨entering, after, s₁, enters, ran, room⟩,
    ⟨limiting, after', s₂, clock, limits, ran', allowed⟩⟩ := run_sound fresh run n _ here
  have passes : Passes s₁.pool s₂.limiter clock (clientName peer) := ⟨room, allowed⟩
  refine ⟨entering, limiting, clock, s₁, s₂, ⟨after, ?_⟩, ⟨after', ?_⟩, ran, ran', passes,
    (serve_of_passes _ _ _ passes).symm⟩
  · rw [enters, List.append_assoc, List.singleton_append]
  · rw [limits, List.append_assoc, List.singleton_append]

end Server
end ProxyMeter.Session
