import ProxyMeter.Gate.Admission
import ProxyMeter.Gate.RateLimit
import ProxyMeter.Proofs.Socks.Transcript
import ProxyMeter.Session.Conversation

/-!
# The course of a session before it relays

What a client is told, and whether its target is dialled, is decided by the pool, the limiter, what
the client says, the allow-list and the dial. A client that does not take what it is told, or does
not go on in time, only makes the session end sooner.
-/

namespace ProxyMeter.Session

open Gate Socks Exchange

/-- There is a place in the pool, and the limiter lets the client pass. -/
def Passes (pool : ConnectionPool) (limiter : RateLimiter Float) (clock : Int)
    (client : String) : Prop :=
  pool.active < pool.limit ∧ (limiter.allow client clock).1 = true

/-- The answers to a client that is let through to its request: `0x00` if its target was reached,
`0x05` if the target refused and `0x04` if it was not reached for another reason, `0x02` if the
client is not allowed to, `0x07` for another command and `0x08` for an unknown form of address. -/
inductive Answered (rules : Rules) (client : String) (dial : Target → Except DialFault Link)
    (bytes : List UInt8) : UInt8 → Endpoint → Prop
  | succeeded {t : Target} {rest : List UInt8} {link : Link}
      (requests : Requests rules.login bytes t rest)
      (allowed : rules.allowed.admits client = true) (reached : dial t = .ok link) :
      Answered rules client dial bytes 0x00 (link.bind.getD nowhere)
  | notAllowed {t : Target} {rest : List UInt8} (requests : Requests rules.login bytes t rest)
      (forbidden : rules.allowed.admits client = false) :
      Answered rules client dial bytes 0x02 nowhere
  | connectionRefused {t : Target} {rest : List UInt8}
      (requests : Requests rules.login bytes t rest)
      (allowed : rules.allowed.admits client = true) (refused : dial t = .error .refused) :
      Answered rules client dial bytes 0x05 nowhere
  | hostUnreachable {t : Target} {rest : List UInt8} {fault : DialFault}
      (requests : Requests rules.login bytes t rest)
      (allowed : rules.allowed.admits client = true) (failed : dial t = .error fault)
      (other : fault ≠ .refused) :
      Answered rules client dial bytes 0x04 nowhere
  | commandNotSupported {command form : UInt8} (begins : Begins rules.login bytes command form)
      (other : command ≠ 0x01) :
      Answered rules client dial bytes 0x07 nowhere
  | addressTypeNotSupported {form : UInt8} (begins : Begins rules.login bytes 0x01 form)
      (unknown : ¬ KnownForm form) :
      Answered rules client dial bytes 0x08 nowhere

/-- The answer about a dial that failed. -/
def answerTo : DialFault → UInt8
  | .refused => 0x05
  | .timedOut | .failed _ => 0x04

/-- The answer about a target. -/
def answerFor (rules : Rules) (client : String) (dial : Target → Except DialFault Link)
    (t : Target) : UInt8 × Endpoint :=
  if rules.allowed.admits client then
    match dial t with
    | .ok link => (0x00, link.bind.getD nowhere)
    | .error fault => (answerTo fault, nowhere)
  else (0x02, nowhere)

section Converse

variable {rules : Rules} {client : String} {dial : Target → Except DialFault Link} {w : Wire}

/-- A client that requests a target is answered about it, and in no other way. -/
theorem answered_iff_of_requests {bytes rest : List UInt8} {t : Target}
    (requests : Requests rules.login bytes t rest) (code : UInt8) (bind : Endpoint) :
    Answered rules client dial bytes code bind ↔ answerFor rules client dial t = (code, bind) := by
  constructor
  · intro answered
    cases answered with
    | succeeded requests' allowed reached =>
      obtain ⟨rfl, -⟩ := requests.unique requests'
      simp [answerFor, allowed, reached]
    | notAllowed requests' forbidden => simp [answerFor, forbidden]
    | connectionRefused requests' allowed refused =>
      obtain ⟨rfl, -⟩ := requests.unique requests'
      simp [answerFor, allowed, refused, answerTo]
    | @hostUnreachable t' rest' fault requests' allowed failed other =>
      obtain ⟨rfl, -⟩ := requests.unique requests'
      cases fault with
      | refused => exact absurd rfl other
      | timedOut => simp [answerFor, allowed, failed, answerTo]
      | failed cause => simp [answerFor, allowed, failed, answerTo]
    | commandNotSupported begins other => exact absurd (requests.begins begins).1 other
    | addressTypeNotSupported begins unknown => exact absurd (requests.begins begins).2 unknown
  · intro same
    rw [answerFor] at same
    split at same
    · next allowed =>
      split at same
      · next link reached =>
        cases same
        exact .succeeded requests allowed reached
      · next fault failed =>
        cases same
        cases fault with
        | refused => exact .connectionRefused requests allowed failed
        | timedOut => exact .hostUnreachable requests allowed failed nofun
        | failed cause => exact .hostUnreachable requests allowed failed nofun
    · next forbidden =>
      cases same
      exact .notAllowed requests (Bool.eq_false_iff.mpr forbidden)

/-- A client with another command is told so, and nothing else. -/
theorem answered_iff_of_command {bytes : List UInt8} {command form : UInt8}
    (begins : Begins rules.login bytes command form) (other : command ≠ 0x01)
    (code : UInt8) (bind : Endpoint) :
    Answered rules client dial bytes code bind ↔
      ((0x07 : UInt8), nowhere) = (code, bind) := by
  constructor
  · intro answered
    cases answered with
    | succeeded requests | notAllowed requests | connectionRefused requests
    | hostUnreachable requests => exact absurd (requests.begins begins).1 other
    | commandNotSupported => rfl
    | addressTypeNotSupported begins' => exact absurd (begins.unique begins').1 other
  · intro same
    cases same
    exact .commandNotSupported begins other

/-- A client with an unknown form of address is told so, and nothing else. -/
theorem answered_iff_of_form {bytes : List UInt8} {form : UInt8}
    (begins : Begins rules.login bytes 0x01 form) (unknown : ¬ KnownForm form)
    (code : UInt8) (bind : Endpoint) :
    Answered rules client dial bytes code bind ↔
      ((0x08 : UInt8), nowhere) = (code, bind) := by
  constructor
  · intro answered
    cases answered with
    | succeeded requests | notAllowed requests | connectionRefused requests
    | hostUnreachable requests => exact absurd (requests.begins begins).2 unknown
    | commandNotSupported begins' other => exact absurd (begins.unique begins').1.symm other
    | addressTypeNotSupported => rfl
  · intro same
    cases same
    exact .addressTypeNotSupported begins unknown

/-- A client that requests nothing, and nothing that is not served, is not answered. -/
theorem not_answered {bytes : List UInt8} (none : ∀ t rest, ¬ Requests rules.login bytes t rest)
    (known : ∀ command form, Begins rules.login bytes command form →
      command = 0x01 ∧ KnownForm form) (code : UInt8) (bind : Endpoint) :
    ¬ Answered rules client dial bytes code bind := by
  intro answered
  cases answered with
  | succeeded requests | notAllowed requests | connectionRefused requests
  | hostUnreachable requests => exact none _ _ requests
  | commandNotSupported begins other => exact other (known _ _ begins).1
  | addressTypeNotSupported begins unknown => exact unknown (known _ _ begins).2

/-- The handshake and the answer about the target, without the dial between them. -/
def exchange (rules : Rules) (client : String) (dial : Target → Except DialFault Link) :
    Exchange Unit := do
  let t ← handshake rules.login
  write (replyBytes (answerFor rules client dial t).1 (answerFor rules client dial t).2)

private theorem reason_of_ofClient {failure : Failure} (h : (Halt.failed failure).OfClient) :
    failure.reason ≠ .admission := by
  obtain reason | reason := h
  all_goals
    rw [reason]
    nofun

private theorem reason_of_sendReply {code : ReplyCode} {bind : Option Endpoint} {w' : Wire}
    {failure : Failure} (told : (sendReply code bind).runOn w = (.error (.failed failure), w')) :
    failure.reason ≠ .admission :=
  reason_of_ofClient ((gives_write _ w).ofClient told)

/-- The client, its stream or the target is to blame for a conversation that fails. -/
theorem reason_of_converse {failure : Failure}
    (failed : (converse rules client dial w).outcome = .error (.failed failure)) :
    failure.reason ≠ .admission := by
  rw [converse] at failed
  split at failed
  · next halt wire halted =>
    cases failed
    have blame := handshake_ofClient halted
    cases halt with
    | failed failure => exact reason_of_ofClient blame
    | awaiting => nofun
  · next t wire given =>
    split at failed
    · rw [connect] at failed
      split at failed
      · dsimp only at failed
        split at failed <;> cases failed
        nofun
      · split at failed
        · cases failed
        · next told =>
          cases failed
          exact reason_of_sendReply told
    · rw [refuse] at failed
      split at failed
      · cases failed
        nofun
      · next told =>
        cases failed
        exact reason_of_sendReply told

theorem sendReply_succeeded (bind : Option Endpoint) :
    sendReply .succeeded bind = write (replyBytes 0x00 (bind.getD nowhere)) :=
  sendReply_eq .succeeded bind

theorem sendReply_notAllowed : sendReply .notAllowed none = write (replyBytes 0x02 nowhere) :=
  sendReply_eq .notAllowed none

theorem sendReply_reply (fault : DialFault) :
    sendReply fault.reply none = write (replyBytes (answerTo fault) nowhere) := by
  cases fault <;> exact sendReply_eq _ none

/-- What is said does not depend on when the target is dialled. -/
theorem wire_converse (rules : Rules) (client : String)
    (dial : Target → Except DialFault Link) (w : Wire) :
    (converse rules client dial w).wire = ((exchange rules client dial).runOn w).2 := by
  rw [exchange, runOn_bind, converse]
  cases (handshake rules.login).runOn w with
  | mk outcome wire =>
    cases outcome with
    | error halt => rfl
    | ok t =>
      dsimp only
      cases allowed : rules.allowed.admits client with
      | false =>
        rw [if_neg Bool.false_ne_true, refuse, sendReply_notAllowed, answerFor, allowed,
          if_neg Bool.false_ne_true]
        split
        · next told => exact congrArg Prod.snd told.symm
        · next told => exact congrArg Prod.snd told.symm
      | true =>
        rw [if_pos rfl, connect, answerFor, allowed, if_pos rfl]
        cases dial t with
        | error fault =>
          dsimp only
          rw [sendReply_reply]
        | ok link =>
          dsimp only
          rw [sendReply_succeeded]
          split
          · next told => exact congrArg Prod.snd told.symm
          · next told => exact congrArg Prod.snd told.symm

private theorem dialled_connect (dial : Target → Except DialFault Link) (t : Target) (w : Wire) :
    (connect dial t w).dialled = some t := by
  rw [connect]
  split
  · rfl
  · split <;> rfl

private theorem dialled_refuse (client : String) (w : Wire) :
    (refuse client w).dialled = none := by
  rw [refuse]
  split <;> rfl

/-- A target is dialled after a handshake that gives it, if the client is allowed to. -/
theorem dialled_converse_iff {t : Target} :
    (converse rules client dial w).dialled = some t ↔
      ((handshake rules.login).runOn w).1 = .ok t ∧ rules.allowed.admits client = true := by
  rw [converse]
  cases (handshake rules.login).runOn w with
  | mk outcome wire =>
    cases outcome with
    | error halt => simp
    | ok t' =>
      dsimp only
      cases allowed : rules.allowed.admits client with
      | false => simp [dialled_refuse]
      | true => simp [dialled_connect]

/-- A session gets to relaying if the dial succeeds and the client takes the answer. -/
theorem outcome_converse_iff {t : Target} {link : Link} :
    (converse rules client dial w).outcome = .ok ⟨t, link⟩ ↔
      (converse rules client dial w).dialled = some t ∧ dial t = .ok link ∧
        ((exchange rules client dial).runOn w).1 = .ok () := by
  rw [exchange, runOn_bind, dialled_converse_iff, converse]
  cases (handshake rules.login).runOn w with
  | mk outcome wire =>
    cases outcome with
    | error halt => simp
    | ok t' =>
      dsimp only
      cases allowed : rules.allowed.admits client with
      | false =>
        rw [if_neg Bool.false_ne_true, refuse]
        split <;> simp
      | true =>
        rw [if_pos rfl, connect, answerFor, allowed, if_pos rfl]
        cases reached : dial t' with
        | error fault =>
          refine ⟨nofun, ?_⟩
          rintro ⟨⟨same, -⟩, reached', -⟩
          cases same
          rw [reached] at reached'
          cases reached'
        | ok link' =>
          dsimp only
          rw [sendReply_succeeded]
          constructor
          · intro gets
            split at gets
            · next told =>
              cases gets
              exact ⟨⟨rfl, rfl⟩, reached, congrArg Prod.fst told⟩
            · cases gets
          · rintro ⟨⟨same, -⟩, reached', told⟩
            cases same
            rw [reached] at reached'
            cases reached'
            split
            · rfl
            · next halted =>
              rw [halted] at told
              cases told

/-- What is said in a session that has passed the pool and the limiter, with its transcript. -/
theorem exchange_told (rules : Rules) (client : String) (dial : Target → Except DialFault Link)
    (w : Wire) : ∃ told : Transcript, told.InOrder ∧ told.Opens rules.login w.unread ∧
      (∀ code bind, told.answer = some (code, bind) ↔
        Answered rules client dial w.unread code bind) ∧
      ((exchange rules client dial).runOn w).2.written = w.written ++ w.heard told.encode ∧
      (((exchange rules client dial).runOn w).1 = .ok () ↔
        (∃ t rest, Requests rules.login w.unread t rest) ∧ w.Fits told.encode.length) := by
  cases course rules.login w with
  | @requested t rest requests gives =>
    obtain ⟨more, enters, asks⟩ := id requests
    have said : (exchange rules client dial).Gives w () rest
        ((Transcript.welcome rules.login).answered (answerFor rules client dial t).1
          (answerFor rules client dial t).2).encode := by
      rw [Transcript.encode_answered rfl]
      exact gives.bind fun w' left => left ▸ gives_write _ w'
    refine ⟨_, Transcript.inOrder_welcome _ _, (opens_welcome enters).answered _ _, ?_,
      said.written, said.outcome_eq_iff.trans (and_iff_right ⟨t, rest, requests⟩).symm⟩
    intro code bind
    rw [answered_iff_of_requests requests]
    exact Option.some_inj
  | otherCommand begins other stops =>
    obtain ⟨more, enters, -⟩ := id begins
    have said : (exchange rules client dial).Stops w _ := stops.bind _
    refine ⟨_, Transcript.inOrder_welcome _ _, (opens_welcome enters).answered _ _, ?_,
      said.written, fun ran => absurd ran said.outcome_ne, ?_⟩
    · intro code bind
      rw [answered_iff_of_command begins other]
      exact Option.some_inj
    · rintro ⟨⟨t, rest, requests⟩, -⟩
      exact absurd (requests.begins begins).1 other
  | otherForm begins unknown stops =>
    obtain ⟨more, enters, -⟩ := id begins
    have said : (exchange rules client dial).Stops w _ := stops.bind _
    refine ⟨_, Transcript.inOrder_welcome _ _, (opens_welcome enters).answered _ _, ?_,
      said.written, fun ran => absurd ran said.outcome_ne, ?_⟩
    · intro code bind
      rw [answered_iff_of_form begins unknown]
      exact Option.some_inj
    · rintro ⟨⟨t, rest, requests⟩, -⟩
      exact absurd (requests.begins begins).2 unknown
  | @halted told silent opens none known stops =>
    have said : (exchange rules client dial).Stops w _ := stops.bind _
    refine ⟨told, opens.inOrder silent, opens, ?_, said.written,
      fun ran => absurd ran said.outcome_ne, ?_⟩
    · intro code bind
      rw [silent]
      exact ⟨nofun, fun answered => absurd answered (not_answered none known code bind)⟩
    · rintro ⟨⟨t, rest, requests⟩, -⟩
      exact absurd requests (none t rest)

end Converse

section Serve

variable {pool : ConnectionPool} {limiter : RateLimiter Float} {clock : Int} {client : String}
  (rules : Rules) (dial : Target → Except DialFault Link) (w : Wire)

/-- A session that has passed the pool and the limiter is its conversation. -/
theorem serve_of_passes (passes : Passes pool limiter clock client) :
    serve pool limiter clock rules client dial w = converse rules client dial w := by
  rw [serve, ConnectionPool.enter?, if_pos passes.1]
  exact if_pos passes.2

/-- A session that has not passed them ends at once: nothing is read, written or dialled. -/
theorem serve_of_not_passes (stopped : ¬ Passes pool limiter clock client) :
    ∃ failure, serve pool limiter clock rules client dial w =
      { wire := w, outcome := .error (.failed failure) } := by
  rw [serve, ConnectionPool.enter?]
  by_cases room : pool.active < pool.limit
  · rw [if_pos room]
    exact ⟨_, if_neg fun allowed => stopped ⟨room, allowed⟩⟩
  · rw [if_neg room]
    exact ⟨_, rfl⟩

end Serve

/-- What a client is told before relaying, and what is done for it: the transcript is decided by the
pool, the limiter, what the client says, the allow-list and the dial. -/
structure Conversation.Tells (c : Conversation) (passes : Prop) (rules : Rules) (client : String)
    (dial : Target → Except DialFault Link) (w : Wire) (told : Transcript) : Prop where
  order : told.InOrder
  choice : ∀ code, told.choice = some code ↔ passes ∧ Chosen rules.login w.unread code
  status : ∀ accepted, told.status = some accepted ↔ passes ∧ Judged rules.login w.unread accepted
  answer : ∀ code bind, told.answer = some (code, bind) ↔
    passes ∧ Answered rules client dial w.unread code bind
  /-- The client is told a beginning of the transcript, and all of it if it has room. -/
  written : ∃ heard, c.wire.written = w.written ++ heard ∧ heard <+: told.encode ∧
    (w.Fits told.encode.length → heard = told.encode)
  untouched : ¬ passes → c.wire = w ∧ c.dialled = none
  /-- A target is dialled if the client got through to its request, was told so, and is allowed. -/
  dialled : ∀ t, c.dialled = some t ↔ passes ∧ (∃ rest, Requests rules.login w.unread t rest) ∧
    rules.allowed.admits client = true ∧ w.Fits (Transcript.welcome rules.login).encode.length
  /-- A session gets to relaying if the dial succeeds and the client is told all of it. -/
  relays : ∀ t link, c.outcome = .ok ⟨t, link⟩ ↔
    c.dialled = some t ∧ dial t = .ok link ∧ w.Fits told.encode.length

/-- Every session tells its client a transcript, whatever the client says and however it takes what
it is told. -/
theorem serve_tells (pool : ConnectionPool) (limiter : RateLimiter Float) (clock : Int)
    (rules : Rules) (client : String) (dial : Target → Except DialFault Link) (w : Wire) :
    ∃ told, (serve pool limiter clock rules client dial w).Tells
      (Passes pool limiter clock client) rules client dial w told := by
  by_cases passes : Passes pool limiter clock client
  · obtain ⟨told, order, opens, answer, written, ran⟩ := exchange_told rules client dial w
    have dialled (t : Target) : (converse rules client dial w).dialled = some t ↔
        (∃ rest, Requests rules.login w.unread t rest) ∧ rules.allowed.admits client = true ∧
          w.Fits (Transcript.welcome rules.login).encode.length := by
      rw [dialled_converse_iff, handshake_outcome_iff, and_assoc, and_comm (a := w.Fits _)]
    rw [serve_of_passes rules dial w passes]
    refine ⟨told, {
      order
      choice := fun code => (opens.choice code).trans (and_iff_right passes).symm
      status := fun accepted => (opens.status accepted).trans (and_iff_right passes).symm
      answer := fun code bind => (answer code bind).trans (and_iff_right passes).symm
      written := ⟨w.heard told.encode, by rw [wire_converse, written], w.heard_prefix _,
        Wire.heard_of_fits⟩
      untouched := fun stopped => absurd passes stopped
      dialled := fun t => (dialled t).trans (and_iff_right passes).symm
      relays := fun t link => ?_ }⟩
    rw [outcome_converse_iff, ran]
    constructor
    · rintro ⟨dialled', reached, -, fits⟩
      exact ⟨dialled', reached, fits⟩
    · rintro ⟨dialled', reached, fits⟩
      obtain ⟨⟨rest, requests⟩, -⟩ := (dialled t).mp dialled'
      exact ⟨dialled', reached, ⟨t, rest, requests⟩, fits⟩
  · obtain ⟨failure, ended⟩ := serve_of_not_passes rules dial w passes
    have never {p q : Prop} (h : ¬ p) : p ↔ Passes pool limiter clock client ∧ q :=
      ⟨fun holds => absurd holds h, fun holds => absurd holds.1 passes⟩
    rw [ended]
    exact ⟨{}, {
      order := ⟨nofun, nofun⟩
      choice := fun code => never nofun
      status := fun accepted => never nofun
      answer := fun code bind => never nofun
      written := ⟨[], (List.append_nil _).symm, List.prefix_refl _, fun _ => rfl⟩
      untouched := fun _ => ⟨rfl, rfl⟩
      dialled := fun t => never nofun
      relays := fun t link => ⟨nofun, nofun⟩ }⟩

end ProxyMeter.Session
