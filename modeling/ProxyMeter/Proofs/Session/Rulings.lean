import ProxyMeter.Proofs.Session.Accounting
import ProxyMeter.Proofs.Socks.Request

/-!
# Rulings against a client

A gate rules against a client that does not offer to log in where it has to, whose login is wrong,
or that is not allowed. The client is told first, and the ruling is given when it has taken all that
it is told. If it does not take it the session fails as a broken or a late one, and is counted as
one of these. A dial that fails is counted as such, whether or not the client takes the reply.
-/

namespace ProxyMeter.Socks.Exchange

open Session

variable {α β : Type}

/-- An exchange that says something and ends with a failure. -/
def EndsWith (x : Exchange α) (w : Wire) (failure : Failure) (said : List UInt8) : Prop :=
  ∃ pieces, x.Comes w (.error (.failed failure)) pieces said

/-- An exchange that fails ends with the failure. -/
theorem Fails.endsWith {x : Exchange α} {w : Wire} {failure : Failure} {rest said : List UInt8}
    (h : x.Fails w failure rest said) : x.EndsWith w failure said := by
  obtain ⟨pieces, -, fits, beyond⟩ := h
  exact ⟨pieces, fits, fun blocked => ⟨pieces, beyond blocked⟩⟩

/-- Nothing comes after the end. -/
theorem EndsWith.bind {x : Exchange α} {w : Wire} {failure : Failure} {said : List UInt8}
    (h : x.EndsWith w failure said) (f : α → Exchange β) : (x >>= f).EndsWith w failure said := by
  obtain ⟨pieces, comes⟩ := h
  exact ⟨pieces, comes.bind_error f⟩

/-- An exchange that ends after one that gave a value. -/
theorem Gives.bind_endsWith {x : Exchange α} {f : α → Exchange β} {w : Wire} {a : α}
    {failure : Failure} {rest first second : List UInt8} (hx : x.Gives w a rest first)
    (hf : ∀ w' : Wire, w'.unread = rest → (f a).EndsWith w' failure second) :
    (x >>= f).EndsWith w failure (first ++ second) := by
  obtain ⟨pieces, left, comes⟩ := hx
  obtain ⟨pieces', comes'⟩ := hf (w.leaving pieces first) left
  exact ⟨pieces', comes.bind comes'⟩

end ProxyMeter.Socks.Exchange

namespace ProxyMeter.Socks

open Session Gate Exchange

section Handshake

variable {login : Login} {w : Wire} {methods more : List UInt8}

/-- A client that has to log in and does not offer to is not authorised. -/
theorem handshake_endsWith_of_unoffered (greets : Greets w.unread methods more)
    (enabled : login.isEnabled = true) (missing : 0x02 ∉ methods) :
    (handshake login).EndsWith w (.unauthorized "-") [0x05, 0xFF] := by
  have negotiated : (negotiate login.isEnabled).Fails w (.unauthorized "-") more
      [0x05, 0xFF] := by
    refine reads_readGreeting.bind_fails ⟨greets.1, rfl⟩ greets.2 fun pieces left => ?_
    rw [← left, enabled, chooseMethod, code_wantedMethod,
      if_neg (by simpa [methodFor] using missing)]
    exact fails_write _ (runOn_fail _) _
  exact (negotiated.endsWith.bind _).bind _

/-- A client whose login is wrong is not authorised. -/
theorem handshake_endsWith_of_wrong {given : Credentials} {rest : List UInt8}
    (greets : Greets w.unread methods more) (enabled : login.isEnabled = true)
    (offered : 0x02 ∈ methods) (logsIn : LogsIn more given rest)
    (wrong : login.admits given = false) :
    (handshake login).EndsWith w (.unauthorized given.username)
      [0x05, 0x02, 0x01, 0x01] := by
  have chosen : (negotiate login.isEnabled).Gives w .usernamePassword more [0x05, 0x02] := by
    rw [enabled]
    exact negotiate_gives greets offered
  have judged (w' : Wire) (left : w'.unread = more) : (authenticate login).Fails w'
      (.unauthorized given.username) rest [0x01, 0x01] := by
    refine reads_readCredentials.bind_fails ⟨logsIn.1, logsIn.2.1, rfl⟩ (left.trans logsIn.2.2)
      fun pieces left' => ?_
    rw [← left', wrong]
    exact fails_write _ (runOn_fail _) _
  exact EndsWith.bind (chosen.bind_endsWith fun w' left => (judged w' left).endsWith) _

end Handshake

end ProxyMeter.Socks

namespace ProxyMeter.Session

open Calendar Gate Pipeline Socks Exchange Store Traffic

/-- A ruling of a gate against a client, and what the client is told of it and before. -/
inductive Ruling (rules : Rules) (client : String) (bytes : List UInt8) :
    Failure → List UInt8 → Prop
  | unoffered {methods more : List UInt8} (greets : Greets bytes methods more)
      (enabled : rules.login.isEnabled = true)
      (missing : 0x02 ∉ methods) :
      Ruling rules client bytes (.unauthorized "-") [0x05, 0xFF]
  | wrong {methods more rest : List UInt8} {given : Credentials}
      (greets : Greets bytes methods more) (enabled : rules.login.isEnabled = true)
      (offered : 0x02 ∈ methods) (logsIn : LogsIn more given rest)
      (wrong : rules.login.admits given = false) :
      Ruling rules client bytes (.unauthorized given.username)
        [0x05, 0x02, 0x01, 0x01]
  | forbidden {t : Target} {rest : List UInt8} (requests : Requests rules.login bytes t rest)
      (forbidden : rules.allowed.admits client = false) :
      Ruling rules client bytes (.forbidden client)
        ((Transcript.welcome rules.login).encode ++ replyBytes 0x02 nowhere)

/-- How a session goes on whose client does not take what it is told: its stream fails, its patience
ends, or it waits. -/
inductive Untold (rules : Rules) (w : Wire) : Halt → Prop
  | broken {fault : StreamFault} (breaks : w.overflow = some fault) :
      Untold rules w (.failed (.stream fault))
  | late (waits : w.overflow = none) :
      Untold rules w (.failed (.handshakeTimeout rules.patience))
  | waiting (waits : w.overflow = none) : Untold rules w .awaiting

section Converse

variable {rules : Rules} {client : String} {dial : Target → Except DialFault Link} {w : Wire}
  {failure : Failure} {said : List UInt8}

/-- A ruling is one of a gate. -/
theorem Ruling.isGateRejection (h : Ruling rules client w.unread failure said) :
    failure.isGateRejection = true := by
  cases h <;> rfl

/-- A session without room for what its client is told does not end with a ruling. -/
theorem Untold.ne_failed {halt : Halt} (h : Untold rules w halt)
    (gate : failure.isGateRejection = true) : halt ≠ .failed failure := by
  rintro rfl
  cases h <;> cases gate

/-- It is counted under the protocol, if it is counted at all. -/
theorem Untold.reason {failure : Failure} (h : Untold rules w (.failed failure)) :
    failure.reason = .protocol := by
  cases h <;> rfl

theorem Untold.of_blocked (rules : Rules) (w : Wire) : Untold rules w w.blocked := by
  unfold Wire.blocked
  split
  · next fault breaks => exact .broken breaks
  · next waits => exact .waiting waits

theorem Untold.of_failure (rules : Rules) (w : Wire) :
    Untold rules w (.failed (rules.failure w.blocked)) := by
  unfold Wire.blocked
  split
  · next fault breaks => exact .broken breaks
  · next waits => exact .late waits

/-- A conversation that comes to a failure if the client takes all that it is told. -/
structure Conversation.ComesTo (c : Conversation) (rules : Rules) (w : Wire) (failure : Failure)
    (said : List UInt8) : Prop where
  dialled : c.dialled = none
  told : w.Fits said.length → c.outcome = .error (.failed failure)
  untold : ¬ w.Fits said.length → ∃ halt, c.outcome = .error halt ∧ Untold rules w halt

/-- A handshake that ends with a failure is a conversation that does. -/
theorem comesTo_of_endsWith (h : (handshake rules.login).EndsWith w failure said) :
    (converse rules client dial w).ComesTo rules w failure said := by
  obtain ⟨pieces, fits, beyond⟩ := h
  by_cases told : w.Fits said.length
  · rw [converse, fits told]
    exact ⟨rfl, fun _ => rfl, fun untold => absurd told untold⟩
  · obtain ⟨left, blocked⟩ := beyond told
    rw [converse, blocked]
    exact ⟨rfl, fun fits => absurd fits told, fun _ => ⟨_, rfl, .of_failure rules w⟩⟩

/-- A client that is not allowed is told so after its request. -/
theorem comesTo_forbidden {t : Target} {rest : List UInt8}
    (requests : Requests rules.login w.unread t rest)
    (forbidden : rules.allowed.admits client = false) :
    (converse rules client dial w).ComesTo rules w (.forbidden client)
      ((Transcript.welcome rules.login).encode ++ replyBytes 0x02 nowhere) := by
  obtain ⟨pieces, -, fits, beyond⟩ := handshake_gives requests
  by_cases welcome : w.Fits (Transcript.welcome rules.login).encode.length
  · have refused : converse rules client dial w =
        refuse client (w.leaving pieces (Transcript.welcome rules.login).encode) := by
      rw [converse, fits welcome]
      exact if_neg (Bool.eq_false_iff.mp forbidden)
    have room : w.Fits ((Transcript.welcome rules.login).encode ++
        replyBytes 0x02 nowhere).length ↔ _ := Wire.fits_append_iff pieces
    rw [refused, refuse, sendReply_notAllowed]
    by_cases told : (w.leaving pieces (Transcript.welcome rules.login).encode).Fits
        (replyBytes 0x02 nowhere).length
    · rw [runOn_write_of_fits told]
      exact ⟨rfl, fun _ => rfl, fun untold => absurd (room.mpr ⟨welcome, told⟩) untold⟩
    · rw [runOn_write_of_not_fits told]
      exact ⟨rfl, fun fits => absurd (room.mp fits).2 told, fun _ =>
        ⟨_, rfl, .of_blocked rules w⟩⟩
  · have untold : ¬ w.Fits ((Transcript.welcome rules.login).encode ++
        replyBytes 0x02 nowhere).length := fun fits =>
      welcome ((Wire.fits_append_iff pieces).mp fits).1
    obtain ⟨left, blocked⟩ := beyond welcome
    rw [converse, blocked]
    exact ⟨rfl, fun fits => absurd fits untold, fun _ => ⟨_, rfl, .of_failure rules w⟩⟩

/-- A client that is ruled against ends with the ruling if it takes all that it is told. -/
theorem Ruling.comesTo (h : Ruling rules client w.unread failure said) :
    (converse rules client dial w).ComesTo rules w failure said := by
  cases h with
  | unoffered greets enabled missing =>
    exact comesTo_of_endsWith (handshake_endsWith_of_unoffered greets enabled missing)
  | wrong greets enabled offered logsIn wrong =>
    exact comesTo_of_endsWith (handshake_endsWith_of_wrong greets enabled offered logsIn wrong)
  | forbidden requests forbidden => exact comesTo_forbidden requests forbidden

/-- A dial that failed is what its session ends with, unless it has to wait for the client to take
the reply. -/
theorem outcome_of_dial_failed {t : Target} {rest : List UInt8} {fault : DialFault}
    (requests : Requests rules.login w.unread t rest)
    (allowed : rules.allowed.admits client = true) (failed : dial t = .error fault)
    (welcome : w.Fits (Transcript.welcome rules.login).encode.length) :
    (converse rules client dial w).outcome = .error (.failed (.dial t.render fault.message)) ∨
      ¬ w.Fits ((Transcript.welcome rules.login).encode ++
        replyBytes (answerTo fault) nowhere).length ∧ w.overflow = none ∧
        (converse rules client dial w).outcome = .error .awaiting := by
  obtain ⟨pieces, -, fits, -⟩ := handshake_gives requests
  have dials : converse rules client dial w =
      connect dial t (w.leaving pieces (Transcript.welcome rules.login).encode) := by
    rw [converse, fits welcome]
    exact if_pos allowed
  have room : w.Fits ((Transcript.welcome rules.login).encode ++
      replyBytes (answerTo fault) nowhere).length ↔ _ := Wire.fits_append_iff pieces
  rw [dials, connect, failed]
  dsimp only
  rw [sendReply_reply]
  by_cases told : (w.leaving pieces (Transcript.welcome rules.login).encode).Fits
      (replyBytes (answerTo fault) nowhere).length
  · rw [runOn_write_of_fits told]
    exact .inl rfl
  · rw [runOn_write_of_not_fits told, Wire.blocked]
    cases overflow : w.overflow with
    | none => exact .inr ⟨fun fits => told (room.mp fits).2, rfl, by simp [Wire.leaving, overflow]⟩
    | some fault => exact .inl (by simp [Wire.leaving, overflow])

end Converse

namespace Server

variable {σ : Type}

/-- The verdicts on one session. -/
def verdictsOn [Repository σ] (s : Server σ) (actions : List Action) (n : Nat) :
    List (Nat × Verdict) :=
  (s.verdicts actions).filter fun v => v.1 == n

/-- If no session is ruled on twice, a verdict is the only one on its session. -/
theorem filter_eq_of_mem {verdicts : List (Nat × Verdict)} (once : (verdicts.map Prod.fst).Nodup)
    {n : Nat} {verdict : Verdict} (ruled : (n, verdict) ∈ verdicts) :
    (verdicts.filter fun v => v.1 == n) = [(n, verdict)] := by
  induction verdicts with
  | nil => cases ruled
  | cons v rest ih =>
    rw [List.map_cons, List.nodup_cons] at once
    cases ruled with
    | head =>
      have others : (rest.filter fun v => v.1 == n) = [] := by
        refine List.filter_eq_nil_iff.mpr fun v later same => once.1 ?_
        exact List.mem_map.mpr ⟨v, later, eq_of_beq same⟩
      rw [List.filter_cons, if_pos (beq_self_eq_true n), others]
    | tail _ later =>
      have other : ¬ (v.1 == n) = true := fun same =>
        once.1 (List.mem_map.mpr ⟨(n, verdict), later, (eq_of_beq same).symm⟩)
      rw [List.filter_cons, if_neg other, ih once.2 later]

section Failed

variable [Repository σ] {s₀ s s' : Server σ} {n : Nat} {v : Connection} {failure : Failure}

omit [Repository σ] in
/-- A session that has failed stays where it is until it is rejected for that. -/
theorem Turn.of_failed {a : Action} {verdict : Option (Nat × Verdict)}
    (here : s.connections[n]? = some v) (failed : v.stage = .failed failure)
    (h : s.Turn a verdict s') :
    s'.connections[n]? = some v ∨ verdict = some (n, .rejected failure.reason) := by
  cases h with
  | arrive peer room =>
    obtain ⟨bound, -⟩ := List.getElem?_eq_some_iff.mp here
    exact .inl ((List.getElem?_append_left bound).trans here)
  | @move _ m v' _ _ inner stage move =>
    by_cases same : m = n
    · subst same
      obtain rfl := Option.some.inj (move.here.symm.trans here)
      exact .inr (move.failed failure failed)
    · exact .inl (by rw [move.connections, List.getElem?_set_ne same, here])
  | aside connections =>
    rw [connections]
    exact .inl here

/-- In every run that goes on after a session has failed, the session is still there or has been
rejected for its failure. -/
theorem run_of_failed {before after : List Action} (fresh : s₀.connections = [])
    (ran : s₀.run before = some s) (here : s.connections[n]? = some v)
    (failed : v.stage = .failed failure) (run : s.run after = some s') :
    s'.connections[n]? = some v ∨
      (n, .rejected failure.reason) ∈ s₀.verdicts (before ++ after) := by
  refine run_induction (P := fun done t => t.connections[n]? = some v ∨
    (n, .rejected failure.reason) ∈ s₀.verdicts (before ++ done)) (.inl here) ?_ run
  intro done t a t' went still step
  have reached : s₀.run (before ++ done) = some t := by
    rw [Server.run, List.foldlM_append]
    exact Option.bind_eq_some_iff.mpr ⟨s, ran, went⟩
  rw [← List.append_assoc, verdicts_append reached, List.mem_append]
  obtain waiting | ruled := still
  · obtain stays | now :=
      Turn.of_failed waiting failed ((Change.of_step step).turn (run_sound fresh reached))
    · exact .inl stays
    · exact .inr (.inr (Option.mem_toList.mpr now))
  · exact .inr (.inl ruled)

/-- A session that has failed is ruled on once, for its failure, or not yet. -/
theorem verdictsOn_of_failed {limit : Nat} {before after : List Action}
    (fresh : s₀.connections = []) (start : s₀.Books limit [] []) (ran : s₀.run before = some s)
    (here : s.connections[n]? = some v) (failed : v.stage = .failed failure)
    (run : s.run after = some s') :
    s'.IsRuled n ∧
        s₀.verdictsOn (before ++ after) n = [(n, .rejected failure.reason)] ∨
      ¬ s'.IsRuled n ∧ s₀.verdictsOn (before ++ after) n = [] := by
  have whole : s₀.run (before ++ after) = some s' := by
    rw [Server.run, List.foldlM_append]
    exact Option.bind_eq_some_iff.mpr ⟨s, ran, run⟩
  have books := run_books fresh start whole
  obtain waiting | ruled := run_of_failed fresh ran here failed run
  · have unruled : ¬ s'.IsRuled n := by
      rintro ⟨v', there, ruled⟩
      obtain rfl := Option.some.inj (waiting.symm.trans there)
      rw [failed] at ruled
      cases ruled
    refine .inr ⟨unruled, List.filter_eq_nil_iff.mpr fun v' member same => unruled ?_⟩
    exact (books.ruled n).mpr (List.mem_map.mpr ⟨v', member, eq_of_beq same⟩)
  · exact .inl ⟨(books.ruled n).mpr (List.mem_map.mpr ⟨_, ruled, rfl⟩),
      filter_eq_of_mem books.once ruled⟩

end Failed

/-- What becomes of a session whose conversation ends it for a reason. -/
structure Counts [Repository σ] (s₀ s : Server σ) (before : List Action) (n : Nat) (talk : Action)
    (reason : RejectReason) : Prop where
  /-- It can be settled at once, and one rejection for the reason is counted, and no other. -/
  settles : ∃ s', s.run [talk, .settle n] = some s' ∧ ∀ other,
    s'.allMetrics.rejected other =
      s.allMetrics.rejected other + .ofNat (if reason = other then 1 else 0)
  /-- Whatever else happens, it is rejected for the reason, and for no other, or not ruled on
  yet. -/
  only : ∀ after s', s.run (talk :: after) = some s' →
    s'.IsRuled n ∧
        s₀.verdictsOn (before ++ talk :: after) n = [(n, .rejected reason)] ∨
      ¬ s'.IsRuled n ∧ s₀.verdictsOn (before ++ talk :: after) n = []

/-- A rejection adds to what is counted under its reason. -/
theorem rejected_reject (n : Nat) (peer : Endpoint) (failure : Failure) (after : Stage)
    (s : Server σ) (reason : RejectReason) :
    (s.reject n peer failure after).allMetrics.rejected reason =
      s.allMetrics.rejected reason + .ofNat (if failure.reason = reason then 1 else 0) := by
  obtain ⟨lines, rejected⟩ := reject_eq n peer failure after s
  have counted := balance_allMetrics (s.reject n peer failure after) (.rejected reason)
  have before := s.balance_allMetrics (.rejected reason)
  simp only [add_zero] at counted before
  refine counted.trans (Eq.trans ?_ (congrArg (· + _) before.symm))
  rw [rejected]
  exact s.metrics.gains_recordRejected failure.reason (.rejected reason)

/-- A conversation that ends a session is counted under the reason for that. -/
theorem counts_of_failed [Repository σ] {s₀ s : Server σ} {limit n : Nat} {before : List Action}
    {peer : Endpoint} {w : Wire} {dial : Target → Except DialFault Link} {failure : Failure}
    (fresh : s₀.connections = []) (start : s₀.Books limit [] []) (ran : s₀.run before = some s)
    (here : s.connections[n]? = some ⟨peer, .passed⟩)
    (failed : (converse s.rules (clientName peer) dial w).outcome = .error (.failed failure))
    (since : Instant) (latencyMs : Nat) :
    s₀.Counts s before n (.converse n w dial since latencyMs) failure.reason := by
  obtain ⟨bound, -⟩ := List.getElem?_eq_some_iff.mp here
  have talk : s.step (.converse n w dial since latencyMs) = some (s.put n peer (.failed failure)) :=
    by simp only [step, here, failed]
  have there : (s.put n peer (.failed failure)).connections[n]? = some ⟨peer, .failed failure⟩ :=
    List.getElem?_set_self bound
  have settle : (s.put n peer (.failed failure)).step (.settle n) =
      some ((s.put n peer (.failed failure)).reject n peer failure .settled) := by
    simp only [step, there]
  constructor
  · refine ⟨_, ?_, rejected_reject n peer failure .settled (s.put n peer (.failed failure))⟩
    rw [Server.run, List.foldlM_cons, talk]
    exact congrArg (· >>= fun s => some s) settle
  · intro after s' run
    rw [Server.run, List.foldlM_cons, talk] at run
    have reached : s₀.run (before ++ [.converse n w dial since latencyMs]) =
        some (s.put n peer (.failed failure)) := by
      rw [Server.run, List.foldlM_append]
      exact Option.bind_eq_some_iff.mpr ⟨s, ran, congrArg (· >>= fun s => some s) talk⟩
    rw [List.append_cons]
    exact verdictsOn_of_failed fresh start reached there rfl run

/-- How a session goes on that has a place and that the limiter has let pass. -/
structure Upholds [Repository σ] (s₀ s : Server σ) (before : List Action) (n : Nat)
    (peer : Endpoint) (w : Wire) (dial : Target → Except DialFault Link) (since : Instant)
    (latencyMs : Nat) : Prop where
  /-- If a gate rules against it, its target is not dialled, and it ends with the ruling if the
  client has room for all that it is told. -/
  ruling : ∀ {failure said}, Ruling s.rules (clientName peer) w.unread failure said →
    failure.isGateRejection = true ∧ (converse s.rules (clientName peer) dial w).dialled = none ∧
      ((converse s.rules (clientName peer) dial w).outcome = .error (.failed failure) ↔
        w.Fits said.length)
  told : ∀ {failure said}, Ruling s.rules (clientName peer) w.unread failure said →
    w.Fits said.length →
      s₀.Counts s before n (.converse n w dial since latencyMs) failure.reason
  /-- If the client has not, the session is counted under the protocol, or it waits for a client
  that still may take what it is told. -/
  untold : ∀ {failure said}, Ruling s.rules (clientName peer) w.unread failure said →
    ¬ w.Fits said.length →
      s₀.Counts s before n (.converse n w dial since latencyMs) .protocol ∨
        w.overflow = none ∧
          (converse s.rules (clientName peer) dial w).outcome = .error .awaiting
  /-- A dial that failed is counted as such whether or not the client has room for the reply. -/
  undialled : ∀ {t rest fault}, Requests s.rules.login w.unread t rest →
    s.rules.allowed.admits (clientName peer) = true → dial t = .error fault →
    w.Fits (Transcript.welcome s.rules.login).encode.length →
      s₀.Counts s before n (.converse n w dial since latencyMs) .dial ∨
        w.overflow = none ∧
          (converse s.rules (clientName peer) dial w).outcome = .error .awaiting

/-- In every run of a server the ruling of a gate against a session is what the session is counted
under, if and only if the client has room for all that it is told. -/
theorem run_upholds [Repository σ] {settings : PipelineSettings} {store : σ} {pipeline : State σ}
    {proxy : ProxySettings} {rate : RateSettings} {patience : Clock.Span} {before : List Action}
    {s : Server σ} {n : Nat} {peer : Endpoint} (start : State.start? settings store = some pipeline)
    (run : (Server.start proxy rate patience pipeline).run before = some s)
    (here : s.connections[n]? = some ⟨peer, .passed⟩) (w : Wire)
    (dial : Target → Except DialFault Link) (since : Instant) (latencyMs : Nat) :
    (Server.start proxy rate patience pipeline).Upholds s before n peer w dial since latencyMs := by
  have counts {failure : Failure}
      (failed : (converse s.rules (clientName peer) dial w).outcome = .error (.failed failure)) :=
    counts_of_failed rfl (books_start start proxy rate patience) run here failed since latencyMs
  constructor
  · intro failure said ruling
    have comes : (converse s.rules (clientName peer) dial w).ComesTo s.rules w failure said :=
      ruling.comesTo
    refine ⟨ruling.isGateRejection, comes.dialled, fun ended => ?_, comes.told⟩
    by_contra beyond
    obtain ⟨halt, ended', untold⟩ := comes.untold beyond
    rw [ended'] at ended
    exact untold.ne_failed ruling.isGateRejection (Except.error.inj ended)
  · intro failure said ruling fits
    exact counts (ruling.comesTo.told fits)
  · intro failure said ruling beyond
    have comes : (converse s.rules (clientName peer) dial w).ComesTo s.rules w failure said :=
      ruling.comesTo
    obtain ⟨halt, ended, untold⟩ := comes.untold beyond
    cases untold with
    | broken breaks => exact .inl (counts ended)
    | late waits => exact .inl (counts ended)
    | waiting waits => exact .inr ⟨waits, ended⟩
  · intro t rest fault requests allowed failed welcome
    obtain ended | ⟨-, waits, ended⟩ := outcome_of_dial_failed requests allowed failed welcome
    · exact .inl (counts ended)
    · exact .inr ⟨waits, ended⟩

private def stranger : Endpoint := ⟨.unspecified, 4000⟩

private def unwilling (room : Option Nat) : Wire := { pieces := [greeting [0]], room }

private def guarded (pipeline : State Memory) : Server Memory :=
  start { login := { enabled := true, username := "u", password := "p" } } { enabled := false }
    (.ofSeconds 10) pipeline

private theorem greets_unwilling (room : Option Nat) : Greets (unwilling room).unread [0] [] :=
  ⟨by decide, rfl⟩

private def admission : List Action :=
  [.arrive stranger, .count 0, .enter 0, .activate 0, .limit 0 5]

/-- A client that does not offer to log in, and has room for the answer or has none. -/
theorem run_upholds_unwilling : ∃ (pipeline : State Memory) (s : Server Memory),
    State.start? {} {} = some pipeline ∧ (guarded pipeline).run admission = some s ∧
      s.connections[0]? = some ⟨stranger, .passed⟩ ∧
      (guarded pipeline).Counts s admission 0
        (.converse 0 (unwilling none) (fun _ => .error .refused) ⟨5, 0⟩ 0) .unauthorized ∧
      (guarded pipeline).Counts s admission 0
        (.converse 0 (unwilling (some 1)) (fun _ => .error .refused) ⟨5, 0⟩ 0) .protocol := by
  have ran : ∃ (pipeline : State Memory) (s : Server Memory),
      State.start? {} {} = some pipeline ∧ (guarded pipeline).run admission = some s ∧
        s.connections[0]? = some ⟨stranger, .passed⟩ ∧ s.rules.login.isEnabled = true :=
    ⟨_, _, rfl, rfl, rfl, rfl⟩
  obtain ⟨pipeline, s, started, run, here, enabled⟩ := ran
  have ruling (room : Option Nat) : Ruling s.rules (clientName stranger) (unwilling room).unread
      (.unauthorized "-") [0x05, 0xFF] :=
    .unoffered (greets_unwilling room) enabled (by decide)
  have upheld (room : Option Nat) := run_upholds started run here (unwilling room)
    (fun _ => .error .refused) ⟨5, 0⟩ 0
  refine ⟨pipeline, s, started, run, here, (upheld none).told (ruling none) nofun, ?_⟩
  have beyond : ¬ (unwilling (some 1)).Fits [0x05, 0xFF].length :=
    fun fits => absurd (fits 1 rfl) (by decide)
  obtain counted | ⟨waits, -⟩ := (upheld (some 1)).untold (ruling (some 1)) beyond
  · exact counted
  · cases waits

/-- The ruling on a client that does not offer to log in gets lost if the client has no room for the
answer. -/
theorem unoffered_untold :
    Ruling { login := .requiring "u" "p", allowed := .ofList [] } "192.0.2.1"
        (unwilling (some 0)).unread (.unauthorized "-") [0x05, 0xFF] ∧
      (converse { login := .requiring "u" "p", allowed := .ofList [] } "192.0.2.1"
        (fun _ => .error .refused) (unwilling (some 0))).outcome =
          .error (.failed (.stream .writeRefused)) ∧
      (Failure.stream .writeRefused).reason ≠ (Failure.unauthorized "-").reason :=
  ⟨.unoffered (greets_unwilling _) rfl (by decide), rfl, nofun⟩

end Server
end ProxyMeter.Session
