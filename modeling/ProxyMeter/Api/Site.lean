import ProxyMeter.Api.Question
import ProxyMeter.Api.Response
import ProxyMeter.Log.Line
import ProxyMeter.Metrics.Exposition

/-!
# The query interface

Requests go by their path, letter for letter, to one of six endpoints. Four of them ask the store
and wrap what it says in an envelope that tells success from failure; a store that fails leaves a
line in the log. A request can be broken off by the store, and then has no response.
-/

namespace ProxyMeter.Api

open Calendar Json Store

/-- What a path leads to (the routes of `router`). -/
inductive Endpoint where
  | health
  | metrics
  | top (g : Grouping)
  | summary
  | page
  deriving DecidableEq, Repr

namespace Endpoint

/-- The endpoint of a path. -/
def ofPath? : String → Option Endpoint
  | "/health" => some .health
  | "/metrics" => some .metrics
  | "/api/stats/top-domains" => some (.top .domain)
  | "/api/stats/source-ips" => some (.top .sourceIp)
  | "/api/stats/traffic" => some .summary
  | "/api/logs/traffic" => some .page
  | _ => none

/-- The parameters of an endpoint. -/
def parameters : Endpoint → List Parameter
  | .health | .metrics => []
  | .top _ => [.limit]
  | .summary => [.start, .stop]
  | .page => [.start, .stop, .limit, .offset]

/-- What an endpoint was doing when the store failed. -/
def task : Endpoint → String
  | .top .domain => "查询域名统计"
  | .top .sourceIp => "查询来源 IP 统计"
  | .summary => "查询流量统计"
  | .page => "查询流量记录"
  | .health | .metrics => ""

end Endpoint

/-- A request: its method, and the path and query it is for. -/
structure Request where
  method : String := "GET"
  target : String
  deriving DecidableEq, Repr

/-- The path and query of a request, without the scheme and host that may stand before them. -/
def Request.place (r : Request) : List Char :=
  if r.target.startsWith "/" then r.target.toList
  else match r.target.splitOn "://" with
    | _ :: host :: rest =>
      ("://".intercalate (host :: rest)).toList.dropWhile fun c => c ≠ '/' ∧ c ≠ '?' ∧ c ≠ '#'
    | _ => r.target.toList

/-- The path of a request. -/
def Request.path (r : Request) : String :=
  String.ofList (r.place.takeWhile fun c => c ≠ '?' ∧ c ≠ '#')

/-- The query of a request. -/
def Request.query (r : Request) : String :=
  match r.place.dropWhile fun c => c ≠ '?' ∧ c ≠ '#' with
  | '?' :: rest => String.ofList (rest.takeWhile (· ≠ '#'))
  | _ => ""

/-- What a request comes to. -/
structure Outcome where
  /-- None if the request is broken off. -/
  response : Option Response
  lines : List Log.Line := []

/-- The store, and the metrics if the proxy runs beside it (`ApiState`). -/
structure Site (σ : Type) where
  store : σ
  metrics : Option Metrics := none

/-- The envelope of an answer (`ApiResponse.success`). -/
def successEnvelope (data : Value) : Value :=
  .record [("success", .boolean true), ("data", data), ("message", .text "Success")]

/-- The envelope of a failure (`ApiResponse.error`). -/
def failureEnvelope (message : String) : Value :=
  .record [("success", .boolean false), ("data", .null), ("message", .text message)]

/-- A response in JSON. -/
def jsonResponse (v : Value) : Response := .content 200 "application/json" v.render

/-- A response in words. -/
def plainResponse (status : Nat) (text : String) : Response :=
  .content status "text/plain; charset=utf-8" text

/-- What the answer to a question comes to. -/
def Endpoint.outcome {α : Type} (e : Endpoint) (toJson : α → Value) :
    Except QuestionFault α → Outcome
  | .ok a => { response := some (jsonResponse (successEnvelope (toJson a))) }
  | .error (.store .brokenOff) => { response := none }
  | .error fault =>
    { response := some (jsonResponse (failureEnvelope fault.message))
      lines := match fault with
        | .range _ => []
        | .store fault => [⟨.error, .queries, e.task ++ "失败: " ++ fault.message⟩] }

namespace Site

variable {σ : Type} [Repository σ]

/-- What an endpoint says to a query at a time: the handlers `health`, `metrics`, `top_domains`,
`top_source_ips`, `traffic_stats` and `traffic_logs`. -/
def ask (site : Site σ) (e : Endpoint) (q : Query) (now : Instant) : Outcome :=
  match e with
  | .health => { response := some (jsonResponse (successEnvelope
      (.record [("status", .text "ok"), ("time", .text now.render)]))) }
  | .metrics => { response := some <| match site.metrics with
      | some m =>
        .content 200 "application/openmetrics-text; version=1.0.0; charset=utf-8" m.exposition
      | none => plainResponse 404 "metrics disabled" }
  | .top g =>
    e.outcome (.array <| ·.map fun r => .record (Ranked.members g r)) (Api.top g q site.store)
  | .summary =>
    e.outcome (fun s => .record (Summary.members "total_connections" s))
      (Api.summary q now site.store)
  | .page => e.outcome Page.toJson (Api.page q now site.store)

/-- What an endpoint says to a request for its content. -/
def get (site : Site σ) (e : Endpoint) (request : Request) (now : Instant) : Outcome :=
  match Query.read e.parameters (parameters request.query) with
  | .ok q => site.ask e q now
  | .error fault => { response := some (plainResponse 400 fault.message) }

/-- What a request comes to at a time (`router`). -/
def answer (site : Site σ) (request : Request) (now : Instant) : Outcome :=
  match request.method, Endpoint.ofPath? request.path with
  | "OPTIONS", known => { response := some (.preflight known.isSome) }
  | _, none => { response := some .notFound }
  | "GET", some e => site.get e request now
  | "HEAD", some e =>
    let outcome := site.get e request now
    { outcome with response := outcome.response.map Response.withoutBody }
  | _, some _ => { response := some .methodNotAllowed }

end Site

end ProxyMeter.Api
