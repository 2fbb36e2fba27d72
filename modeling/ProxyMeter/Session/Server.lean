import ProxyMeter.Gate.Admission
import ProxyMeter.Gate.RateLimit
import ProxyMeter.Pipeline.State
import ProxyMeter.Session.Conversation

/-!
# The server and its sessions

A session passes the pool, the limiter and the conversation, relays, and is accounted for: each
counter that it touches is a step of its own, and the steps of different sessions come in any order.
A session that has relayed gives its event to the pipeline; one that has failed is counted under the
reason of its failure. `Server.step` is what may happen next.
-/

namespace ProxyMeter.Session

open Calendar Gate Pipeline Socks Store Traffic

/-- How far a session has come in `handle_connection` and `run_session`. -/
inductive Stage where
  /-- Accepted, and not counted yet. -/
  | arrived
  | counted
  /-- There was no place for it. -/
  | turnedAway
  /-- It has a place in the pool. -/
  | admitted
  /-- It is counted as active. -/
  | active
  /-- The limiter has let it pass. -/
  | passed
  | relaying (opened : Opened) (since : Instant) (latencyMs : Nat)
  /-- The relaying is over; nothing of it is counted yet. -/
  | relayed (e : Event) (bytesIn bytesOut : UInt64)
  /-- The bytes that came in are counted. -/
  | countedIn (e : Event) (bytesOut : UInt64)
  /-- All bytes are counted. -/
  | measured (e : Event)
  | failed (failure : Failure)
  /-- It has given its event away or has been counted as rejected. -/
  | settled
  /-- It is not counted as active any more. -/
  | inactive
  /-- It is counted as closed. -/
  | closed
  | gone

/-- A session, which `handle_connection` serves, and the client's end of it. -/
structure Connection where
  peer : Endpoint
  stage : Stage := .arrived

/-- Whether a session is not over. -/
def Connection.isPresent (v : Connection) : Bool :=
  match v.stage with
  | .gone => false
  | _ => true

/-- A client's host, as it is recorded and compared. -/
def clientName (peer : Endpoint) : String := peer.host.render

/-- A server, its sessions, and the pipeline for their events (`ProxyServer`). The latest line is
the first. -/
structure Server (σ : Type) where
  pool : ConnectionPool
  limiter : RateLimiter Float
  rules : Rules
  pipeline : State σ
  /-- What the sessions have counted. -/
  metrics : Metrics := {}
  connections : List Connection := []
  lines : List Log.Line := []

namespace Server

/-- What can happen to a server. Sessions are named by their places. -/
inductive Action where
  | arrive (peer : Endpoint)
  | count (n : Nat)
  /-- A session gets a place in the pool, or none. -/
  | enter (n : Nat)
  | activate (n : Nat)
  /-- The limiter is asked at a reading of the clock. -/
  | limit (n : Nat) (clock : Int)
  | converse (n : Nat) (wire : Wire) (dial : Target → Except DialFault Link) (since : Instant)
      (latencyMs : Nat)
  /-- The relaying ends, perhaps by a fault. -/
  | finish (n : Nat) (bytesIn bytesOut : UInt64) (fault : Option StreamFault)
  | countIn (n : Nat)
  | countOut (n : Nat)
  /-- A session gives its event away or is counted as rejected. -/
  | settle (n : Nat)
  | deactivate (n : Nat)
  | close (n : Nat)
  /-- The place in the pool is given back. -/
  | leave (n : Nat)
  | allow (ip : String)
  | deny (ip : String)
  | pipeline (a : Pipeline.Action)

variable {σ : Type}

/-- A server before its first session (`ProxyServer.new`). -/
def start (proxy : ProxySettings) (rate : RateSettings) (patience : Clock.Span)
    (pipeline : State σ) : Server σ :=
  { pool := { limit := proxy.maxConnections.toNat }
    limiter := { enabled := rate.enabled, rate := rate.perSecond.toNat }
    rules := {
      login := if proxy.login.enabled then .requiring proxy.login.username proxy.login.password
        else .off
      allowed := .ofList proxy.allowList
      patience }
    pipeline }

/-- The most sessions that can share the server at a time. The number of those that share it is kept
below the greatest signed word. -/
def widest : Nat := Nat.pow 2 63 - 1

/-- How many sessions are not over. -/
def inProgress (s : Server σ) : Nat := s.connections.countP Connection.isPresent

/-- Puts a client's session at a stage. -/
def put (n : Nat) (peer : Endpoint) (stage : Stage) (s : Server σ) : Server σ :=
  { s with connections := s.connections.set n ⟨peer, stage⟩ }

/-- Adds a line to the log. -/
def log (level : Log.Level) (text : String) (s : Server σ) : Server σ :=
  { s with lines := ⟨level, .server, text⟩ :: s.lines }

/-- Changes what is counted. -/
def counting (f : Metrics → Metrics) (s : Server σ) : Server σ :=
  { s with metrics := f s.metrics }

/-- The event of a session that has relayed (the end of `run_session`). The counts wrap into signed
words. -/
def event (peer : Endpoint) (o : Opened) (since : Instant) (latencyMs : Nat)
    (bytesIn bytesOut : UInt64) : Event :=
  { sourceIp := clientName peer
    destinationIp := o.destination
    domain := o.target.domainName
    port := o.target.port
    timestamp := since
    latencyMs
    bytesIn := bytesIn.toInt64.toInt
    bytesOut := bytesOut.toInt64.toInt
    transport := transportTcp }

/-- A session comes to be relaying (`run_session` after its reply). -/
def opened (n : Nat) (peer : Endpoint) (o : Opened) (since : Instant) (latencyMs : Nat)
    (s : Server σ) : Server σ :=
  ((s.log .debug s!"🔗 {peer.render} -> {o.target.render} ({latencyMs}ms)").counting
    fun m => m.observe (Float.ofNat latencyMs) .connectionLatency).put n peer
      (.relaying o since latencyMs)

/-- Adds a line about the fault that ended the relaying, if there was one. -/
def logBreak (peer : Endpoint) (o : Opened) (fault : Option StreamFault) (s : Server σ) :
    Server σ :=
  match fault with
  | some fault => s.log .debug s!"转发 {peer.render} -> {o.target.render} 中断: {fault.message}"
  | none => s

/-- A session gives its event to the pipeline (`handle_connection` after `run_session`). -/
def deliver (n : Nat) (peer : Endpoint) (e : Event) (s : Server σ) : Server σ :=
  let s := s.log .debug <| s!"会话结束: {e.sourceIp} -> {e.destinationIp}:{e.port} " ++
    s!"(收 {e.bytesIn} 字节, 发 {e.bytesOut} 字节)"
  { s with pipeline := s.pipeline.collect e }.put n peer .settled

/-- A session is counted as rejected (`handle_connection` after a `SessionError`). -/
def reject (n : Nat) (peer : Endpoint) (failure : Failure) (after : Stage)
    (s : Server σ) : Server σ :=
  let s := if failure.isGateRejection then
      s.log .warn s!"拒绝来自 {peer.render} 的连接: {failure.message}"
    else s.log .debug s!"会话 {peer.render} 提前结束: {failure.message}"
  (s.counting fun m => m.recordRejected failure.reason).put n peer after

/-- One step, if it is possible. -/
def step [Repository σ] (s : Server σ) : Action → Option (Server σ)
  | .arrive peer =>
    if s.inProgress < widest then some { s with connections := s.connections ++ [{ peer }] }
    else none
  | .count n =>
    match s.connections[n]? with
    | some ⟨peer, .arrived⟩ => some ((s.counting (·.tick .totalConnections)).put n peer .counted)
    | _ => none
  | .enter n =>
    match s.connections[n]? with
    | some ⟨peer, .counted⟩ =>
      match s.pool.enter? with
      | some pool => some ({ s with pool }.put n peer .admitted)
      | none => some (s.put n peer .turnedAway)
    | _ => none
  | .activate n =>
    match s.connections[n]? with
    | some ⟨peer, .admitted⟩ =>
      some (((s.log .debug s!"📥 新连接来自: {peer.render}").counting fun m =>
        (m.shiftActive 1).2).put n peer .active)
    | _ => none
  | .limit n clock =>
    match s.connections[n]? with
    | some ⟨peer, .active⟩ =>
      let (passes, limiter) := s.limiter.allow (clientName peer) clock
      some ({ s with limiter }.put n peer
        (if passes then .passed else .failed (.rateLimited (clientName peer))))
    | _ => none
  | .converse n wire dial since latencyMs =>
    match s.connections[n]? with
    | some ⟨peer, .passed⟩ =>
      match (Session.converse s.rules (clientName peer) dial wire).outcome with
      | .ok o => some (s.opened n peer o since latencyMs)
      | .error (.failed failure) => some (s.put n peer (.failed failure))
      | .error .awaiting => none
    | _ => none
  | .finish n bytesIn bytesOut fault =>
    match s.connections[n]? with
    | some ⟨peer, .relaying o since latencyMs⟩ =>
      some ((s.logBreak peer o fault).put n peer
        (.relayed (event peer o since latencyMs bytesIn bytesOut) bytesIn bytesOut))
    | _ => none
  | .countIn n =>
    match s.connections[n]? with
    | some ⟨peer, .relayed e bytesIn bytesOut⟩ =>
      some ((s.counting fun m => (m.increase .bytesIn bytesIn).2).put n peer
        (.countedIn e bytesOut))
    | _ => none
  | .countOut n =>
    match s.connections[n]? with
    | some ⟨peer, .countedIn e bytesOut⟩ =>
      some ((s.counting fun m => (m.increase .bytesOut bytesOut).2).put n peer (.measured e))
    | _ => none
  | .settle n =>
    match s.connections[n]? with
    | some ⟨peer, .measured e⟩ => some (s.deliver n peer e)
    | some ⟨peer, .failed failure⟩ => some (s.reject n peer failure .settled)
    | some ⟨peer, .turnedAway⟩ => some (s.reject n peer (.admission s.pool.limit) .gone)
    | _ => none
  | .deactivate n =>
    match s.connections[n]? with
    | some ⟨peer, .settled⟩ =>
      some ((s.counting fun m => (m.shiftActive (-1)).2).put n peer .inactive)
    | _ => none
  | .close n =>
    match s.connections[n]? with
    | some ⟨peer, .inactive⟩ => some ((s.counting (·.tick .closedConnections)).put n peer .closed)
    | _ => none
  | .leave n =>
    match s.connections[n]? with
    | some ⟨peer, .closed⟩ => some ({ s with pool := s.pool.leave }.put n peer .gone)
    | _ => none
  | .allow ip =>
    some { s with rules := { s.rules with allowed := s.rules.allowed.insert ip } }
  | .deny ip =>
    some { s with rules := { s.rules with allowed := s.rules.allowed.erase ip } }
  | .pipeline a => (s.pipeline.step a).map fun pipeline => { s with pipeline }

/-- Some steps one after the other, if each is possible in its turn. -/
def run [Repository σ] (s : Server σ) (actions : List Action) : Option (Server σ) :=
  actions.foldlM step s

/-- Everything that has been counted, by the sessions and by the pipeline. -/
def allMetrics (s : Server σ) : Metrics := s.pipeline.notices.foldr Notice.count s.metrics

/-- The lines with which a server begins to listen at an address (`ProxyServer.run`). -/
def greetingLines (rules : Rules) (address : String) : List Log.Line :=
  ⟨.info, .server, "🚀 SOCKS5 代理已启动: " ++ address⟩ ::
    (if rules.login.isEnabled then [⟨.info, .server, "🔐 已启用用户名/密码认证"⟩] else [])

/-- The line with which a server takes no more connections (`ProxyServer.run`). -/
def farewellLine : Log.Line := ⟨.info, .server, "SOCKS5 代理停止接受新连接"⟩

end Server

end ProxyMeter.Session
