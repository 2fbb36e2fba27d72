import ProxyMeter.Settings.Basic
import ProxyMeter.Settings.Fault
import ProxyMeter.Text.Blank
import ProxyMeter.Text.Cut
import ProxyMeter.Text.Numeral

/-!
# Settings from the environment

Twenty variables override one setting each, in a fixed order. An empty variable counts as unset.
Numbers and truth values may have blanks around them, texts are taken as they are, and the
allow-list is cut at commas. The first variable that cannot be read ends the matter; what came
before it stays.
-/

namespace ProxyMeter.Settings

/-- The environment variables that are looked at, in their order. -/
inductive Variable where
  | proxyAddress
  | proxyPort
  | proxyMaxConnections
  | proxyAuthEnabled
  | proxyAuthUsername
  | proxyAuthPassword
  | proxyAllowList
  | apiAddress
  | apiPort
  | storePath
  | pipelineWorkers
  | pipelineInputCapacity
  | pipelineOutputCapacity
  | pipelineBatchSize
  | pipelineFlushMillis
  | logLevel
  | logFormat
  | logDirectory
  | rateEnabled
  | ratePerSecond
  deriving DecidableEq, Repr

namespace Variable

/-- All variables in their order. -/
def all : List Variable :=
  [.proxyAddress, .proxyPort, .proxyMaxConnections, .proxyAuthEnabled, .proxyAuthUsername,
    .proxyAuthPassword, .proxyAllowList, .apiAddress, .apiPort, .storePath, .pipelineWorkers,
    .pipelineInputCapacity, .pipelineOutputCapacity, .pipelineBatchSize, .pipelineFlushMillis,
    .logLevel, .logFormat, .logDirectory, .rateEnabled, .ratePerSecond]

/-- The name of a variable in the environment. -/
def name : Variable → String
  | proxyAddress => "PROXY_ADDRESS"
  | proxyPort => "PROXY_PORT"
  | proxyMaxConnections => "PROXY_MAX_CONNECTIONS"
  | proxyAuthEnabled => "PROXY_AUTH_ENABLED"
  | proxyAuthUsername => "PROXY_AUTH_USERNAME"
  | proxyAuthPassword => "PROXY_AUTH_PASSWORD"
  | proxyAllowList => "PROXY_IP_WHITELIST"
  | apiAddress => "API_ADDRESS"
  | apiPort => "API_PORT"
  | storePath => "DB_PATH"
  | pipelineWorkers => "PIPELINE_WORKERS"
  | pipelineInputCapacity => "PIPELINE_BUFFER_SIZE"
  | pipelineOutputCapacity => "PIPELINE_OUTPUT_BUFFER_SIZE"
  | pipelineBatchSize => "PIPELINE_BATCH_SIZE"
  | pipelineFlushMillis => "PIPELINE_FLUSH_INTERVAL_MS"
  | logLevel => "LOG_LEVEL"
  | logFormat => "LOG_FORMAT"
  | logDirectory => "LOG_DIR"
  | rateEnabled => "RATE_LIMIT_ENABLED"
  | ratePerSecond => "RATE_LIMIT_RPS"

end Variable

/-- A number of at most `bound`, blanks around it aside (`parse_env` of a number). -/
def numberIn (bound : Nat) (raw : String) : Option Nat :=
  Text.boundedNumeral? bound (Text.trim raw)

/-- A truth value, blanks around it aside (`parse_env` of a truth value). -/
def flagIn (raw : String) : Option Bool :=
  let word := Text.trim raw
  if word = "true" then some true else if word = "false" then some false else none

/-- The parts of a list at its commas, trimmed, without the empty ones. -/
def partsOf (raw : String) : List String :=
  ((Text.cut ',' raw).map Text.trim).filter (· ≠ "")

/-- The settings after one variable; none if its value cannot be read (one branch of
`Config.apply_overrides`). -/
def override (v : Variable) (raw : String) (s : Settings) : Option Settings :=
  let port := (numberIn (UInt16.size - 1) raw).map UInt16.ofNat
  let word := (numberIn (UInt64.size - 1) raw).map UInt64.ofNat
  let rate := (numberIn (UInt32.size - 1) raw).map UInt32.ofNat
  match v with
  | .proxyAddress => some { s with proxy.address := raw }
  | .proxyPort => port.map fun n => { s with proxy.port := n }
  | .proxyMaxConnections => word.map fun n => { s with proxy.maxConnections := n }
  | .proxyAuthEnabled => (flagIn raw).map fun b => { s with proxy.login.enabled := b }
  | .proxyAuthUsername => some { s with proxy.login.username := raw }
  | .proxyAuthPassword => some { s with proxy.login.password := raw }
  | .proxyAllowList => some { s with proxy.allowList := partsOf raw }
  | .apiAddress => some { s with api.address := raw }
  | .apiPort => port.map fun n => { s with api.port := n }
  | .storePath => some { s with store.path := raw }
  | .pipelineWorkers => word.map fun n => { s with pipeline.workers := n }
  | .pipelineInputCapacity => word.map fun n => { s with pipeline.inputCapacity := n }
  | .pipelineOutputCapacity => word.map fun n => { s with pipeline.outputCapacity := n }
  | .pipelineBatchSize => word.map fun n => { s with pipeline.batchSize := n }
  | .pipelineFlushMillis => word.map fun n => { s with pipeline.flushMillis := n }
  | .logLevel => some { s with log.level := raw }
  | .logFormat => some { s with log.format := raw }
  | .logDirectory => some { s with log.directory := some raw }
  | .rateEnabled => (flagIn raw).map fun b => { s with rate.enabled := b }
  | .ratePerSecond => rate.map fun n => { s with rate.perSecond := n }

/-- What the environment holds under a name. -/
abbrev Environment := String → Option String

/-- The value of a variable that is set and not empty. -/
def Variable.value? (env : Environment) (v : Variable) : Option String :=
  (env v.name).filter (· ≠ "")

/-- Applies variables in order up to the first that cannot be read, which is the fault. -/
def overrideAll (env : Environment) : List Variable → Settings → Settings × Option Fault
  | [], s => (s, none)
  | v :: vs, s =>
    match v.value? env with
    | none => overrideAll env vs s
    | some raw =>
      match override v raw s with
      | none => (s, some (.variable v.name raw))
      | some s => overrideAll env vs s

/-- The settings under an environment, and the variable that could not be read if there is one
(`Config.apply_overrides`). -/
def overridden (s : Settings) (env : Environment) : Settings × Option Fault :=
  overrideAll env Variable.all s

end ProxyMeter.Settings
