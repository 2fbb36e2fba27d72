import ProxyMeter.Gate.Admission
import ProxyMeter.Gate.AllowList
import ProxyMeter.Gate.RateLimit
import ProxyMeter.Socks.Handshake

/-!
# What is said before relaying

After the handshake the allow-list is asked, then the target is dialled, and the client is told how
that went. A conversation keeps the wire as it is afterwards, the target that was dialled, and the
outcome: a link to relay over, or the failure that ended the session.

A client that is still expected to send, or to take what it is told, when the patience is over
fails the handshake; what it has been told until then stays said. After the handshake nobody is
impatient: as long as the client does not take its reply the session does not go on.
-/

namespace ProxyMeter.Session

open Gate Socks

/-- Why a target was not reached (`SessionError.DialFailure` of `dial`). -/
inductive DialFault where
  | refused
  | timedOut
  | failed (cause : String)
  deriving DecidableEq, Repr

namespace DialFault

/-- The words for a dial that failed. -/
def message : DialFault → String
  | .refused => "Connection refused (os error 111)"
  | .timedOut => "连接超时"
  | .failed cause => cause

/-- What the client is told about a dial that failed (`dial_failure_reply`). -/
def reply : DialFault → ReplyCode
  | .refused => .connectionRefused
  | .timedOut | .failed _ => .hostUnreachable

end DialFault

/-- A connection to a target: the host at its other end and the end point at this one. -/
structure Link where
  host : Option Host
  bind : Option Endpoint
  deriving DecidableEq, Repr

/-- What a client is asked for, and for how long. -/
structure Rules where
  login : Login
  allowed : AllowList
  /-- How long a handshake may take. -/
  patience : Clock.Span := .ofSeconds 10
  deriving DecidableEq, Repr

/-- A target and the link to it. -/
structure Opened where
  target : Target
  link : Link
  deriving DecidableEq, Repr

/-- The name of the host that was reached; the target as it was asked for if the host is unknown. -/
def Opened.destination (o : Opened) : String :=
  match o.link.host with
  | some host => host.render
  | none => o.target.render

/-- What was said, and what came of it. -/
structure Conversation where
  wire : Wire
  dialled : Option Target := none
  outcome : Except Halt Opened

/-- The failure that a halt comes to. -/
def Rules.failure (rules : Rules) : Halt → Failure
  | .failed failure => failure
  | .awaiting => .handshakeTimeout rules.patience

/-- The conversation with a client that is refused by the allow-list (the whitelist in
`run_session`). -/
def refuse (client : String) (w : Wire) : Conversation :=
  match (sendReply .notAllowed none).runOn w with
  | (.ok (), wire) => { wire, outcome := .error (.failed (.forbidden client)) }
  | (.error halt, wire) => { wire, outcome := .error halt }

/-- The conversation about a target that is dialled (the dial in `run_session`). If it is not
reached the client is told so; a fault in telling it does not matter. -/
def connect (dial : Target → Except DialFault Link) (target : Target) (w : Wire) :
    Conversation :=
  match dial target with
  | .error fault =>
    let (told, wire) := (sendReply fault.reply none).runOn w
    { wire
      dialled := some target
      outcome := .error <| match told with
        | .error .awaiting => .awaiting
        | _ => .failed (.dial target.render fault.message) }
  | .ok link =>
    match (sendReply .succeeded link.bind).runOn w with
    | (.ok (), wire) => { wire, dialled := some target, outcome := .ok ⟨target, link⟩ }
    | (.error halt, wire) => { wire, dialled := some target, outcome := .error halt }

/-- The conversation with a client over a wire (`run_session` up to the relaying). -/
def converse (rules : Rules) (client : String) (dial : Target → Except DialFault Link)
    (w : Wire) : Conversation :=
  match (handshake rules.login).runOn w with
  | (.error halt, wire) => { wire, outcome := .error (.failed (rules.failure halt)) }
  | (.ok target, wire) =>
    if rules.allowed.admits client then connect dial target wire
    else refuse client wire

/-- A client's way from its arrival to relaying: through the pool, the limiter at a reading of the
clock, and the conversation (`handle_connection`, and `run_session` up to the relaying). -/
def serve (pool : ConnectionPool) (limiter : RateLimiter Float) (clock : Int) (rules : Rules)
    (client : String) (dial : Target → Except DialFault Link) (w : Wire) : Conversation :=
  match pool.enter? with
  | none => { wire := w, outcome := .error (.failed (.admission pool.limit)) }
  | some _ =>
    if (limiter.allow client clock).1 then converse rules client dial w
    else { wire := w, outcome := .error (.failed (.rateLimited client)) }

end ProxyMeter.Session
