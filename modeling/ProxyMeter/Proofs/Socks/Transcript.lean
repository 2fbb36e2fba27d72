import ProxyMeter.Proofs.Socks.Handshake

/-!
# What a client is told

A transcript is what the server has to say to a client before it relays: the method that it chooses,
whether a login is accepted, and a reply. Each is decided by what the client says.
-/

namespace ProxyMeter.Socks

open Session Gate Exchange

/-- What a client is told before relaying. The answer is the number of an outcome, and the end point
that is named with it. -/
structure Transcript where
  choice : Option UInt8 := none
  status : Option Bool := none
  answer : Option (UInt8 × Endpoint) := none

namespace Transcript

/-- The bytes of a transcript: choice, status, and answer. -/
def encode (t : Transcript) : List UInt8 :=
  (t.choice.elim [] fun method => [0x05, method] : List UInt8) ++
    (t.status.elim [] fun accepted => [0x01, if accepted then 0x00 else 0x01] : List UInt8) ++
      t.answer.elim [] fun (outcome, bind) => replyBytes outcome bind

/-- The beginning of every transcript of a client that is let through to its request. -/
def welcome (login : Login) : Transcript where
  choice := some (methodFor login.isEnabled)
  status := if login.isEnabled then some true else none

/-- A transcript with an answer at its end. -/
def answered (code : UInt8) (bind : Endpoint) (t : Transcript) : Transcript :=
  { t with answer := some (code, bind) }

/-- An answer is told after everything else. -/
theorem encode_answered {t : Transcript} (h : t.answer = none) (code : UInt8)
    (bind : Endpoint) : (t.answered code bind).encode = t.encode ++ replyBytes code bind := by
  simp [answered, encode, h]

/-- A status is told only after the method with a login was chosen, and an answer only to a client
that need not log in, or whose login was accepted. -/
structure InOrder (t : Transcript) : Prop where
  status : ∀ {accepted}, t.status = some accepted → t.choice = some 0x02
  answer : ∀ {code bind}, t.answer = some (code, bind) →
    t.choice = some 0x00 ∧ t.status = none ∨
      t.choice = some 0x02 ∧ t.status = some true

/-- What a client is told that is let through is in order, with an answer and without. -/
theorem inOrder_welcome (login : Login) (answer : Option (UInt8 × Endpoint)) :
    { welcome login with answer }.InOrder := by
  unfold welcome
  cases login.isEnabled with
  | true => exact ⟨fun _ => rfl, fun _ => .inr ⟨rfl, rfl⟩⟩
  | false => exact ⟨nofun, fun _ => .inl ⟨rfl, rfl⟩⟩

/-- The first message of a transcript is its choice. -/
theorem InOrder.choice_eq {t : Transcript} (order : t.InOrder) {method : UInt8}
    (begins : [0x05, method] <+: t.encode) : t.choice = some method := by
  obtain ⟨choice, status, answer⟩ := t
  cases choice with
  | some chosen =>
    have same : method = chosen := by simpa [encode] using begins
    exact congrArg some same.symm
  | none =>
    have unjudged : status = none :=
      Option.eq_none_iff_forall_ne_some.mpr fun accepted told => by cases order.status told
    have unanswered : answer = none :=
      Option.eq_none_iff_forall_ne_some.mpr fun _ told => by
        obtain ⟨choice, -⟩ | ⟨choice, -⟩ := order.answer told <;> cases choice
    simp [encode, unjudged, unanswered] at begins

/-- What follows the choice and begins like a status is one. -/
theorem InOrder.status_eq {t : Transcript} (order : t.InOrder) {method status : UInt8}
    (begins : [0x05, method, 0x01, status] <+: t.encode) :
    ∃ accepted, t.status = some accepted ∧ status = if accepted then 0x00 else 0x01 := by
  have chosen := order.choice_eq ((List.prefix_append [0x05, method] [0x01, status]).trans begins)
  obtain ⟨choice, judged, answer⟩ := t
  cases chosen
  cases judged with
  | some accepted => exact ⟨accepted, rfl, by simpa [encode] using begins⟩
  | none => cases answer <;> simp [encode, replyBytes] at begins

end Transcript

/-- The method that is chosen for a client that greets: the one that the server goes by, `0x02` with
a login and `0x00` without one, or `0xFF` for none. -/
def Chosen (login : Login) (bytes : List UInt8) (code : UInt8) : Prop :=
  ∃ methods rest, Greets bytes methods rest ∧
    code = if methodFor login.isEnabled ∈ methods then methodFor login.isEnabled
      else 0xFF

/-- Whether a client that has to log in, and does so, is accepted. -/
def Judged (login : Login) (bytes : List UInt8) (accepted : Bool) : Prop :=
  login.isEnabled = true ∧ ∃ methods more given rest, Greets bytes methods more ∧
    methodFor login.isEnabled ∈ methods ∧ LogsIn more given rest ∧
    accepted = login.admits given

/-- A transcript that has the choice and the status that are decided by what the client says. -/
structure Transcript.Opens (t : Transcript) (login : Login) (bytes : List UInt8) : Prop where
  choice : ∀ code, t.choice = some code ↔ Chosen login bytes code
  status : ∀ accepted, t.status = some accepted ↔ Judged login bytes accepted

/-- What is decided by what the client says is told in order. -/
theorem Transcript.Opens.inOrder {t : Transcript} {login : Login} {bytes : List UInt8}
    (h : t.Opens login bytes) (silent : t.answer = none) : t.InOrder where
  status := by
    intro accepted told
    obtain ⟨enabled, methods, more, given, rest, greets, offered, -⟩ := (h.status accepted).mp told
    refine (h.choice _).mpr ⟨methods, more, greets, ?_⟩
    rw [if_pos offered, enabled]
    rfl
  answer := by
    intro code bind told
    rw [silent] at told
    cases told

theorem Greets.unique {bytes methods methods' rest rest' : List UInt8}
    (h : Greets bytes methods rest) (h' : Greets bytes methods' rest') :
    methods = methods' ∧ rest = rest' :=
  reads_readGreeting.unique ⟨h.1, rfl⟩ ⟨h'.1, rfl⟩ (h.2.symm.trans h'.2)

theorem LogsIn.unique {bytes rest rest' : List UInt8} {given given' : Credentials}
    (h : LogsIn bytes given rest) (h' : LogsIn bytes given' rest') :
    given = given' ∧ rest = rest' :=
  reads_readCredentials.unique ⟨h.1, h.2.1, rfl⟩ ⟨h'.1, h'.2.1, rfl⟩ (h.2.2.symm.trans h'.2.2)

section Enter

variable {login : Login}

/-- What follows the entry is determined. -/
theorem Enters.unique {bytes rest rest' : List UInt8} (h : Enters login bytes rest)
    (h' : Enters login bytes rest') : rest = rest' := by
  obtain ⟨methods, more, greets, -, on⟩ := h
  obtain ⟨methods', more', greets', -, on'⟩ := h'
  obtain ⟨-, rfl⟩ := greets.unique greets'
  split at on
  · next enabled =>
    rw [if_pos enabled] at on'
    obtain ⟨given, logsIn, -⟩ := on
    obtain ⟨given', logsIn', -⟩ := on'
    exact (logsIn.unique logsIn').2
  · next off =>
    rw [if_neg off] at on'
    exact on.trans on'.symm

/-- A client that does not greet is told nothing. -/
theorem opens_nothing {bytes : List UInt8} (none : ∀ methods rest, ¬ Greets bytes methods rest) :
    Transcript.Opens {} login bytes where
  choice code := by
    refine ⟨nofun, ?_⟩
    rintro ⟨methods, rest, greets, -⟩
    exact absurd greets (none methods rest)
  status accepted := by
    refine ⟨nofun, ?_⟩
    rintro ⟨-, methods, more, _, _, greets, -⟩
    exact absurd greets (none methods more)

/-- A client that does not offer the method that the server goes by is told that none will do. -/
theorem opens_unwanted {bytes methods rest : List UInt8} (greets : Greets bytes methods rest)
    (missing : methodFor login.isEnabled ∉ methods) :
    Transcript.Opens { choice := some 0xFF } login bytes where
  choice code := by
    constructor
    · intro same
      exact ⟨methods, rest, greets, by rw [if_neg missing, Option.some.inj same]⟩
    · rintro ⟨methods', rest', greets', rfl⟩
      obtain ⟨rfl, -⟩ := greets.unique greets'
      rw [if_neg missing]
  status accepted := by
    refine ⟨nofun, ?_⟩
    rintro ⟨-, methods', _, _, _, greets', offered, -⟩
    obtain ⟨rfl, -⟩ := greets.unique greets'
    exact absurd offered missing

/-- A client that offers the method that the server goes by is told so. -/
theorem choice_of_offered {bytes methods rest : List UInt8} (greets : Greets bytes methods rest)
    (offered : methodFor login.isEnabled ∈ methods) (code : UInt8) :
    some (methodFor login.isEnabled) = some code ↔ Chosen login bytes code := by
  constructor
  · intro same
    exact ⟨methods, rest, greets, by rw [if_pos offered, Option.some.inj same]⟩
  · rintro ⟨methods', rest', greets', rfl⟩
    obtain ⟨rfl, -⟩ := greets.unique greets'
    rw [if_pos offered]

/-- A client that does not log in, or need not, is told nothing about a login. -/
theorem opens_unjudged {bytes methods more : List UInt8} (greets : Greets bytes methods more)
    (offered : methodFor login.isEnabled ∈ methods)
    (none : login.isEnabled = true → ∀ given rest, ¬ LogsIn more given rest) :
    Transcript.Opens { choice := some (methodFor login.isEnabled) } login bytes where
  choice := choice_of_offered greets offered
  status accepted := by
    refine ⟨nofun, ?_⟩
    rintro ⟨enabled, methods', more', given, rest, greets', -, logsIn, -⟩
    obtain ⟨-, rfl⟩ := greets.unique greets'
    exact absurd logsIn (none enabled given rest)

/-- A client that logs in is told whether it is accepted. -/
theorem opens_judged {bytes methods more rest : List UInt8} {given : Credentials}
    (greets : Greets bytes methods more) (offered : methodFor login.isEnabled ∈ methods)
    (enabled : login.isEnabled = true) (logsIn : LogsIn more given rest) :
    Transcript.Opens
      { choice := some (methodFor login.isEnabled), status := some (login.admits given) }
      login bytes where
  choice := choice_of_offered greets offered
  status accepted := by
    constructor
    · intro same
      exact ⟨enabled, methods, more, given, rest, greets, offered, logsIn,
        (Option.some.inj same).symm⟩
    · rintro ⟨-, methods', more', given', rest', greets', -, logsIn', rfl⟩
      obtain ⟨-, rfl⟩ := greets.unique greets'
      obtain ⟨rfl, -⟩ := logsIn.unique logsIn'
      rfl

/-- A client that is let through is welcome. -/
theorem opens_welcome {bytes rest : List UInt8} (enters : Enters login bytes rest) :
    (Transcript.welcome login).Opens login bytes := by
  obtain ⟨methods, more, greets, offered, on⟩ := enters
  cases enabled : login.isEnabled with
  | true =>
    rw [if_pos enabled] at on
    obtain ⟨given, logsIn, admitted⟩ := on
    have judged := opens_judged greets offered enabled logsIn
    rw [admitted] at judged
    simpa [Transcript.welcome, enabled] using judged
  | false =>
    have unjudged := opens_unjudged greets offered fun on => by simp [enabled] at on
    simpa [Transcript.welcome, enabled] using unjudged

/-- An answer does not change how a transcript opens. -/
theorem Transcript.Opens.answered {t : Transcript} {bytes : List UInt8} (h : t.Opens login bytes)
    (code : UInt8) (bind : Endpoint) : (t.answered code bind).Opens login bytes :=
  ⟨h.choice, h.status⟩

/-- A client that says all it has to say before its request is let through to it. -/
theorem enter_gives {w : Wire} {rest : List UInt8} (enters : Enters login w.unread rest) :
    (enter login).Gives w () rest (Transcript.welcome login).encode := by
  obtain ⟨methods, more, greets, offered, on⟩ := enters
  have chosen : (negotiate login.isEnabled).Gives w _ more _ := negotiate_gives greets offered
  cases enabled : login.isEnabled with
  | true =>
    rw [if_pos enabled] at on
    obtain ⟨given, logsIn, admitted⟩ := on
    have told : (Transcript.welcome login).encode =
        [0x05, methodFor login.isEnabled] ++ [0x01, 0x00] := by
      simp [Transcript.welcome, Transcript.encode, enabled]
    rw [told]
    apply chosen.bind
    intro w' left
    rw [if_pos (by rw [enabled]; rfl)]
    exact authenticate_gives (left ▸ logsIn) admitted
  | false =>
    rw [if_neg (by simp [enabled])] at on
    have told : (Transcript.welcome login).encode =
        [0x05, methodFor login.isEnabled] := by
      simp [Transcript.welcome, Transcript.encode, enabled]
    rw [told]
    apply chosen.bind_silent
    intro w' left
    rw [if_neg (by rw [enabled]; nofun), on, ← left]
    exact gives_pure () w'

private theorem enter_stops_of_wrong {w : Wire} {methods more rest : List UInt8}
    {given : Credentials} (greets : Greets w.unread methods more)
    (offered : methodFor login.isEnabled ∈ methods) (enabled : login.isEnabled = true)
    (logsIn : LogsIn more given rest) (wrong : login.admits given = false) :
    ∃ t : Transcript, t.answer = none ∧ t.Opens login w.unread ∧
      (enter login).Stops w t.encode := by
  have chosen : (negotiate login.isEnabled).Gives w _ more _ := negotiate_gives greets offered
  refine ⟨_, rfl, opens_judged greets offered enabled logsIn, ?_⟩
  rw [Transcript.encode, Option.elim_none, List.append_nil, wrong]
  apply chosen.bind_stops
  intro w' left
  rw [if_pos (by rw [enabled]; rfl)]
  exact authenticate_stops_of_wrong (left ▸ logsIn) wrong

private theorem enter_stops_of_silence {w : Wire} {methods more : List UInt8}
    (greets : Greets w.unread methods more)
    (offered : methodFor login.isEnabled ∈ methods) (enabled : login.isEnabled = true)
    (silence : ∀ given rest, ¬ LogsIn more given rest) :
    ∃ t : Transcript, t.answer = none ∧ t.Opens login w.unread ∧
      (enter login).Stops w t.encode := by
  have chosen : (negotiate login.isEnabled).Gives w _ more _ := negotiate_gives greets offered
  refine ⟨_, rfl, opens_unjudged greets offered fun _ => silence, ?_⟩
  rw [Transcript.encode, Option.elim_none, Option.elim_none, List.append_nil, List.append_nil]
  apply chosen.bind_stops_silent
  intro w' left
  rw [if_pos (by rw [enabled]; rfl)]
  exact authenticate_stops fun given rest logsIn => silence given rest (left ▸ logsIn)

/-- A client that does not say all it has to say before its request is told as much as is decided,
and that is the end. -/
theorem enter_stops {w : Wire} (none : ∀ rest, ¬ Enters login w.unread rest) :
    ∃ t : Transcript, t.answer = .none ∧ t.Opens login w.unread ∧
      (enter login).Stops w t.encode := by
  by_cases greeted : ∃ methods more, Greets w.unread methods more
  · obtain ⟨methods, more, greets⟩ := greeted
    by_cases offered : methodFor login.isEnabled ∈ methods
    · cases enabled : login.isEnabled with
      | false =>
        refine absurd ⟨methods, more, greets, offered, ?_⟩ (none more)
        rw [if_neg (by simp [enabled])]
      | true =>
        by_cases logged : ∃ given rest, LogsIn more given rest
        · obtain ⟨given, rest, logsIn⟩ := logged
          have wrong : login.admits given = false := by
            refine Bool.eq_false_iff.mpr fun admitted =>
              none rest ⟨methods, more, greets, offered, ?_⟩
            rw [if_pos enabled]
            exact ⟨given, logsIn, admitted⟩
          exact enter_stops_of_wrong greets offered enabled logsIn wrong
        · exact enter_stops_of_silence greets offered enabled fun given rest logsIn =>
            logged ⟨given, rest, logsIn⟩
    · refine ⟨_, rfl, opens_unwanted greets offered, ?_⟩
      exact (negotiate_stops_of_unwanted greets offered).bind _
  · refine ⟨{}, rfl, opens_nothing fun methods more greets => greeted ⟨methods, more, greets⟩, ?_⟩
    exact (negotiate_stops fun methods more greets => greeted ⟨methods, more, greets⟩).bind _

end Enter

/-- A client that is let through to its request, and asks for a target. -/
def Requests (login : Login) (bytes : List UInt8) (t : Target) (rest : List UInt8) : Prop :=
  ∃ more, Enters login bytes more ∧ Asks more t rest

/-- A client that is let through to its request, and sends what begins like one. -/
def Begins (login : Login) (bytes : List UInt8) (command form : UInt8) : Prop :=
  ∃ more, Enters login bytes more ∧ Heads more command form

theorem Requests.unique {login : Login} {bytes rest rest' : List UInt8} {t t' : Target}
    (h : Requests login bytes t rest) (h' : Requests login bytes t' rest') :
    t = t' ∧ rest = rest' := by
  obtain ⟨more, enters, asks⟩ := h
  obtain ⟨more', enters', asks'⟩ := h'
  obtain rfl := enters.unique enters'
  exact asks.unique asks'

theorem Requests.begins {login : Login} {bytes rest : List UInt8} {t : Target}
    (h : Requests login bytes t rest) {command form : UInt8}
    (begins : Begins login bytes command form) : command = 0x01 ∧ KnownForm form := by
  obtain ⟨more, enters, asks⟩ := h
  obtain ⟨more', enters', heads⟩ := begins
  obtain rfl := enters.unique enters'
  exact asks.heads heads

theorem Begins.unique {login : Login} {bytes : List UInt8} {command command' form form' : UInt8}
    (h : Begins login bytes command form) (h' : Begins login bytes command' form') :
    command = command' ∧ form = form' := by
  obtain ⟨more, enters, heads⟩ := h
  obtain ⟨more', enters', heads'⟩ := h'
  obtain rfl := enters.unique enters'
  exact heads.unique heads'

section Handshake

variable {login : Login} {w : Wire}

/-- The handshake gives the target that is requested, and leaves what follows the request. -/
theorem handshake_gives {t : Target} {rest : List UInt8}
    (requests : Requests login w.unread t rest) :
    (handshake login).Gives w t rest (Transcript.welcome login).encode := by
  obtain ⟨more, enters, asks⟩ := requests
  exact (enter_gives enters).bind_silent fun w' left => readRequest_gives (left ▸ asks)

/-- A client that asks for what is not served is told so. -/
theorem handshake_stops_of_command {command form : UInt8}
    (begins : Begins login w.unread command form) (other : command ≠ 0x01) :
    (handshake login).Stops w
      ((Transcript.welcome login).answered 0x07 nowhere).encode := by
  obtain ⟨more, enters, heads⟩ := begins
  rw [Transcript.encode_answered rfl]
  exact (enter_gives enters).bind_stops fun w' left =>
    readRequest_stops_of_command (left ▸ heads) other

/-- A client that gives its target in an unknown form is told so. -/
theorem handshake_stops_of_form {form : UInt8}
    (begins : Begins login w.unread 0x01 form) (unknown : ¬ KnownForm form) :
    (handshake login).Stops w
      ((Transcript.welcome login).answered 0x08 nowhere).encode := by
  obtain ⟨more, enters, heads⟩ := begins
  rw [Transcript.encode_answered rfl]
  exact (enter_gives enters).bind_stops fun w' left =>
    readRequest_stops_of_form (left ▸ heads) unknown

/-- Any other client is told how far it got, and gets no answer. -/
theorem handshake_stops (none : ∀ t rest, ¬ Requests login w.unread t rest)
    (known : ∀ command form, Begins login w.unread command form →
      command = 0x01 ∧ KnownForm form) :
    ∃ t : Transcript, t.answer = .none ∧ t.Opens login w.unread ∧
      (handshake login).Stops w t.encode := by
  by_cases entered : ∃ more, Enters login w.unread more
  · obtain ⟨more, enters⟩ := entered
    refine ⟨Transcript.welcome login, rfl, opens_welcome enters, ?_⟩
    refine (enter_gives enters).bind_stops_silent fun w' left => readRequest_stops ?_ ?_
    · intro t rest asks
      exact none t rest ⟨more, enters, left ▸ asks⟩
    · intro command form heads
      exact known command form ⟨more, enters, left ▸ heads⟩
  · obtain ⟨t, silent, opens, stops⟩ := enter_stops fun more enters => entered ⟨more, enters⟩
    exact ⟨t, silent, opens, stops.bind _⟩

/-- The four courses that a handshake can take. -/
inductive Course (login : Login) (w : Wire) : Prop
  | requested {t : Target} {rest : List UInt8} (requests : Requests login w.unread t rest)
      (gives : (handshake login).Gives w t rest (Transcript.welcome login).encode)
  | otherCommand {command form : UInt8} (begins : Begins login w.unread command form)
      (other : command ≠ 0x01)
      (stops : (handshake login).Stops w
        ((Transcript.welcome login).answered 0x07 nowhere).encode)
  | otherForm {form : UInt8} (begins : Begins login w.unread 0x01 form)
      (unknown : ¬ KnownForm form)
      (stops : (handshake login).Stops w
        ((Transcript.welcome login).answered 0x08 nowhere).encode)
  | halted {t : Transcript} (silent : t.answer = none) (opens : t.Opens login w.unread)
      (none : ∀ t rest, ¬ Requests login w.unread t rest)
      (known : ∀ command form, Begins login w.unread command form →
        command = 0x01 ∧ KnownForm form)
      (stops : (handshake login).Stops w t.encode)

/-- Every handshake takes one of the four courses. -/
theorem course (login : Login) (w : Wire) : Course login w := by
  by_cases requested : ∃ t rest, Requests login w.unread t rest
  · obtain ⟨t, rest, requests⟩ := requested
    exact .requested requests (handshake_gives requests)
  · by_cases otherCommand : ∃ command form, Begins login w.unread command form ∧
      command ≠ 0x01
    · obtain ⟨command, form, begins, other⟩ := otherCommand
      exact .otherCommand begins other (handshake_stops_of_command begins other)
    · by_cases otherForm : ∃ form, Begins login w.unread 0x01 form ∧ ¬ KnownForm form
      · obtain ⟨form, begins, unknown⟩ := otherForm
        exact .otherForm begins unknown (handshake_stops_of_form begins unknown)
      · have none (t : Target) (rest : List UInt8) : ¬ Requests login w.unread t rest :=
          fun requests => requested ⟨t, rest, requests⟩
        have known (command form : UInt8) (begins : Begins login w.unread command form) :
            command = 0x01 ∧ KnownForm form := by
          have served : command = 0x01 :=
            Decidable.not_not.mp fun other => otherCommand ⟨command, form, begins, other⟩
          subst served
          exact ⟨rfl, Classical.not_not.mp fun unknown => otherForm ⟨form, begins, unknown⟩⟩
        obtain ⟨t, silent, opens, stops⟩ := handshake_stops none known
        exact .halted silent opens none known stops

/-- Whatever the client says, there is a transcript of what it is told, as far as it has room. -/
theorem handshake_written (login : Login) (w : Wire) : ∃ t : Transcript, t.InOrder ∧
    t.Opens login w.unread ∧
      ((handshake login).runOn w).2.written = w.written ++ w.heard t.encode := by
  cases course login w with
  | requested requests gives =>
    obtain ⟨more, enters, -⟩ := requests
    exact ⟨_, Transcript.inOrder_welcome login none, opens_welcome enters, gives.written⟩
  | otherCommand begins other stops =>
    obtain ⟨more, enters, -⟩ := begins
    exact ⟨_, Transcript.inOrder_welcome login _, (opens_welcome enters).answered _ _,
      stops.written⟩
  | otherForm begins unknown stops =>
    obtain ⟨more, enters, -⟩ := begins
    exact ⟨_, Transcript.inOrder_welcome login _, (opens_welcome enters).answered _ _,
      stops.written⟩
  | halted silent opens none known stops =>
    exact ⟨_, opens.inOrder silent, opens, stops.written⟩

/-- A handshake that succeeds has read what was asked for, and the client has room for the welcome
that it is told. -/
theorem handshake_of_runOn {w' : Wire} {t : Target}
    (ran : (handshake login).runOn w = (.ok t, w')) :
    Requests login w.unread t w'.unread ∧
      w.Fits (Transcript.welcome login).encode.length := by
  cases course login w with
  | requested requests gives =>
    obtain ⟨fits, rfl, rfl⟩ := gives.of_runOn ran
    exact ⟨requests, fits⟩
  | otherCommand begins other stops => exact absurd ran stops.runOn_ne
  | otherForm begins unknown stops => exact absurd ran stops.runOn_ne
  | halted silent opens none known stops => exact absurd ran stops.runOn_ne

/-- The handshake gives a target if the client requests it and has room for the welcome. -/
theorem handshake_outcome_iff {t : Target} : ((handshake login).runOn w).1 = .ok t ↔
    (∃ rest, Requests login w.unread t rest) ∧
      w.Fits (Transcript.welcome login).encode.length := by
  constructor
  · intro ran
    obtain ⟨requests, fits⟩ := handshake_of_runOn (Prod.ext ran rfl)
    exact ⟨⟨_, requests⟩, fits⟩
  · rintro ⟨⟨rest, requests⟩, fits⟩
    exact (handshake_gives requests).outcome_eq_iff.mpr fits

/-- If the handshake does not succeed, the client is to blame. -/
theorem handshake_ofClient {w' : Wire} {halt : Halt}
    (ran : (handshake login).runOn w = (.error halt, w')) : halt.OfClient := by
  cases course login w with
  | requested requests gives => exact gives.ofClient ran
  | otherCommand begins other stops => exact stops.ofClient ran
  | otherForm begins unknown stops => exact stops.ofClient ran
  | halted silent opens none known stops => exact stops.ofClient ran

end Handshake

end ProxyMeter.Socks
