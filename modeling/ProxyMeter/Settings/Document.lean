import ProxyMeter.Settings.Basic
import ProxyMeter.Toml.Parser
import ProxyMeter.Toml.Printer

/-!
# Settings in a document

A document has a table for each section. A key that is missing leaves the default, and keys that
mean nothing are passed over. A section may also be an array of its values in their order; a
date-time in its place says nothing. A value of the wrong kind, or a number out of range, spoils
the document.
-/

namespace ProxyMeter.Settings

/-- What a section says about a key, which has a name and a position. -/
structure Section where
  entry? : Nat → String → Option Toml.Value

/-- A section as a value gives it. -/
def Section.ofValue? : Toml.Value → Option Section
  | .table entries => some ⟨fun _ name => entries.lookup name⟩
  | .array items => some ⟨fun position _ => items[position]?⟩
  | .dateTime _ => some ⟨fun _ _ => none⟩
  | _ => none

/-- What a section says about a key, or the default if it says nothing. -/
def Section.get {α : Type} (s : Section) (position : Nat) (name : String)
    (read : Toml.Value → Option α) (default : α) : Option α :=
  match s.entry? position name with
  | some v => read v
  | none => some default

/-- A text. -/
def text? : Toml.Value → Option String
  | .string s => some s
  | _ => none

/-- A truth value. -/
def flag? : Toml.Value → Option Bool
  | .boolean b => some b
  | _ => none

/-- A natural number of at most `bound`. -/
def natural? (bound : Nat) : Toml.Value → Option Nat
  | .integer n => if 0 ≤ n ∧ n ≤ bound then some n.toNat else none
  | _ => none

/-- A port. -/
def word16? (v : Toml.Value) : Option UInt16 := (natural? (UInt16.size - 1) v).map UInt16.ofNat

/-- A number of thirty-two bits. -/
def word32? (v : Toml.Value) : Option UInt32 := (natural? (UInt32.size - 1) v).map UInt32.ofNat

/-- A number of sixty-four bits. -/
def word64? (v : Toml.Value) : Option UInt64 := (natural? (UInt64.size - 1) v).map UInt64.ofNat

/-- A list of texts. -/
def texts? : Toml.Value → Option (List String)
  | .array items => items.mapM text?
  | _ => none

/-- The login section. -/
def login? (v : Toml.Value) : Option LoginSettings := do
  let s ← Section.ofValue? v
  let default : LoginSettings := {}
  return {
    enabled := ← s.get 0 "enabled" flag? default.enabled
    username := ← s.get 1 "username" text? default.username
    password := ← s.get 2 "password" text? default.password }

/-- The proxy section. -/
def proxy? (v : Toml.Value) : Option ProxySettings := do
  let s ← Section.ofValue? v
  let default : ProxySettings := {}
  return {
    address := ← s.get 0 "address" text? default.address
    port := ← s.get 1 "port" word16? default.port
    maxConnections := ← s.get 2 "max_connections" word64? default.maxConnections
    login := ← s.get 3 "auth" login? default.login
    allowList := ← s.get 4 "ip_whitelist" texts? default.allowList }

/-- The section of the query interface. -/
def api? (v : Toml.Value) : Option ApiSettings := do
  let s ← Section.ofValue? v
  let default : ApiSettings := {}
  return {
    address := ← s.get 0 "address" text? default.address
    port := ← s.get 1 "port" word16? default.port }

/-- The section of the store. -/
def store? (v : Toml.Value) : Option StoreSettings := do
  let s ← Section.ofValue? v
  let default : StoreSettings := {}
  return { path := ← s.get 0 "path" text? default.path }

/-- The section of the pipeline. -/
def pipeline? (v : Toml.Value) : Option PipelineSettings := do
  let s ← Section.ofValue? v
  let default : PipelineSettings := {}
  return {
    workers := ← s.get 0 "workers" word64? default.workers
    inputCapacity := ← s.get 1 "buffer_size" word64? default.inputCapacity
    outputCapacity := ← s.get 2 "output_buffer_size" word64? default.outputCapacity
    batchSize := ← s.get 3 "batch_size" word64? default.batchSize
    flushMillis := ← s.get 4 "flush_interval_ms" word64? default.flushMillis }

/-- The section of the log. -/
def log? (v : Toml.Value) : Option LogSettings := do
  let s ← Section.ofValue? v
  let default : LogSettings := {}
  return {
    level := ← s.get 0 "level" text? default.level
    format := ← s.get 1 "format" text? default.format
    directory := ← s.get 2 "dir" (fun v => (text? v).map some) default.directory }

/-- The section of the rate limit. -/
def rate? (v : Toml.Value) : Option RateSettings := do
  let s ← Section.ofValue? v
  let default : RateSettings := {}
  return {
    enabled := ← s.get 0 "enabled" flag? default.enabled
    perSecond := ← s.get 1 "requests_per_second" word32? default.perSecond }

/-- The settings (`Config`) that a document says. -/
def ofDocument? (v : Toml.Value) : Option Settings := do
  let s ← Section.ofValue? v
  let default : Settings := {}
  return {
    proxy := ← s.get 0 "proxy" proxy? default.proxy
    api := ← s.get 1 "api" api? default.api
    store := ← s.get 2 "database" store? default.store
    pipeline := ← s.get 3 "pipeline" pipeline? default.pipeline
    log := ← s.get 4 "logging" log? default.log
    rate := ← s.get 5 "rate_limit" rate? default.rate }

/-- The document that says these settings in full. -/
def toDocument (s : Settings) : String :=
  let word (n : UInt64) : Toml.Value := .integer n.toNat
  let port (n : UInt16) : Toml.Value := .integer n.toNat
  let directory := s.log.directory.toList.map fun d => ("dir", Toml.Value.string d)
  Toml.document [
    ("proxy", .table [("address", .string s.proxy.address), ("port", port s.proxy.port),
      ("max_connections", word s.proxy.maxConnections),
      ("auth", .table [("enabled", .boolean s.proxy.login.enabled),
        ("username", .string s.proxy.login.username),
        ("password", .string s.proxy.login.password)]),
      ("ip_whitelist", .array (s.proxy.allowList.map .string))]),
    ("api", .table [("address", .string s.api.address), ("port", port s.api.port)]),
    ("database", .table [("path", .string s.store.path)]),
    ("pipeline", .table [("workers", word s.pipeline.workers),
      ("buffer_size", word s.pipeline.inputCapacity),
      ("output_buffer_size", word s.pipeline.outputCapacity),
      ("batch_size", word s.pipeline.batchSize),
      ("flush_interval_ms", word s.pipeline.flushMillis)]),
    ("logging", .table ([("level", .string s.log.level), ("format", .string s.log.format)]
      ++ directory)),
    ("rate_limit", .table [("enabled", .boolean s.rate.enabled),
      ("requests_per_second", .integer s.rate.perSecond.toNat)])]

end ProxyMeter.Settings
