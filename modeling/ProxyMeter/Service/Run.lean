import ProxyMeter.Pipeline.Rehearsal
import ProxyMeter.Service.Command
import ProxyMeter.Session.Server
import ProxyMeter.Store.Database
import ProxyMeter.Store.Location

/-!
# Running a service

A service opens its database, and the proxy then listens at its address; if one of the two cannot be
done the service does not run. The query interface may fail to listen without stopping the service.
A stop goes the way of an event: first no more connections, then the pipeline to its end, then the
query interface.
-/

namespace ProxyMeter.Service

open Log Store

/-- What a service finds where it runs. -/
structure Surroundings where
  disk : Disk := {}
  /-- The address that is listened at when an address is asked for, or why it cannot be. -/
  listen : String → Except String String

/-- Why a service does not run. -/
inductive Fault where
  | database (fault : OpeningFault)
  | address (address : String)
  /-- The pipeline cannot be made; the program breaks off. -/
  | pipeline
  deriving DecidableEq, Repr

/-- The words for a service that does not run; none if the program breaks off. -/
def Fault.message? : Fault → Option String
  | .database fault => some fault.message
  | .address wanted => some ("无法监听代理地址: " ++ wanted)
  | .pipeline => none

/-- A service that runs. -/
structure Running where
  settings : Settings
  disk : Disk
  /-- The pipeline, if the proxy runs. -/
  pipeline : Option (Pipeline.Rehearsal Database)
  /-- Whether the query interface listens. -/
  answers : Bool

/-- The line with which a service is announced (`main`). -/
def announcement (kind : Kind) (s : Settings) : Line :=
  match kind with
  | .proxy => ⟨.info, .command, "启动 SOCKS5 代理: " ++ s.proxy.bindAddress⟩
  | .api => ⟨.info, .command, "启动查询接口: " ++ s.api.bindAddress⟩

/-- How the query interface begins: whether it listens, and its line (`spawn_api`). -/
def openInterface (s : Settings) (around : Surroundings) : Bool × Line :=
  match around.listen s.api.bindAddress with
  | .ok _ => (true, ⟨.info, .interface, "🌐 HTTP 接口已启动: http://" ++ s.api.bindAddress⟩)
  | .error cause => (false, ⟨.error, .service,
      s!"HTTP 接口错误: 无法监听 HTTP 地址: {s.api.bindAddress}: {cause}"⟩)

/-- How the proxy begins: its pipeline, if it can be made, and its lines (`Pipeline.start` and
`ProxyServer.run`). -/
def openProxy? (s : Settings) (address : String) :
    Option (Pipeline.Rehearsal Database × List Line) := do
  let state ← Pipeline.State.start? s.pipeline (Database.migrateUp {})
  let server := Session.Server.start s.proxy s.rate (.ofSeconds 10) state
  return ({ state }, state.lines ++ Session.Server.greetingLines server.rules address)

/-- Starts a service: the lines that it logs, and the running service (`run_proxy` and `run_api` up
to their waiting). -/
def start (kind : Kind) (s : Settings) (around : Surroundings) : List Line × Except Fault Running :=
  match Location.openAt around.disk s.store.path with
  | .error fault => ([announcement kind s], .error (.database fault))
  | .ok disk =>
    let lines := [announcement kind s, ⟨.info, .database, "数据库已连接: " ++ s.store.path⟩]
    let (answers, line) := openInterface s around
    match kind with
    | .api => (lines ++ [line], .ok { settings := s, disk, pipeline := none, answers })
    | .proxy =>
      match around.listen s.proxy.bindAddress with
      | .error _ => (lines, .error (.address s.proxy.bindAddress))
      | .ok address =>
        match openProxy? s address with
        | none => (lines, .error .pipeline)
        | some (pipeline, begun) =>
          (lines ++ begun ++ [line],
            .ok { settings := s, disk, pipeline := some pipeline, answers })

/-- The signals that stop a service (`shutdown_signal`). -/
inductive Signal where
  | interrupt
  | terminate
  deriving DecidableEq, Repr

/-- The words for a signal. -/
def Signal.message : Signal → String
  | .interrupt => "收到 Ctrl+C 信号"
  | .terminate => "收到 SIGTERM 信号"

/-- The lines with which the proxy and its pipeline stop. -/
def closeProxy (pipeline : Pipeline.Rehearsal Database) : List Line :=
  Session.Server.farewellLine ::
    pipeline.shutdown.state.lines.drop pipeline.state.lines.length

/-- The lines with which a service stops (`run_proxy` and `run_api` after their waiting). -/
def stop (signal : Signal) (r : Running) : List Line :=
  [⟨.info, .service, signal.message⟩, ⟨.info, .service, "正在关闭服务..."⟩] ++
  (r.pipeline.toList.flatMap closeProxy) ++
  (if r.answers then [⟨.info, .interface, "HTTP 接口已停止"⟩] else []) ++
  [⟨.info, .service, "服务已关闭"⟩]

end ProxyMeter.Service
