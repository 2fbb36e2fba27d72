import ProxyMeter.Proofs.Settings.Overrides

/-!
# What a document says of a setting

A setting stands in a document at the end of keys that lead to it from section to section. A
document gives settings exactly if it gives each of them a value by itself: the one at its place,
or the default if nothing is there. A section that is none spoils every setting in it.
-/

namespace ProxyMeter.Settings

/-- What leads from a section to one of its entries: a name in a table, a position in an array. -/
structure Key where
  position : Nat
  name : String

/-- What stands at the end of keys, or that nothing does; none if on the way there is something that
is no section. -/
def entryAt? : List Key → Toml.Value → Option (Option Toml.Value)
  | [], v => some (some v)
  | key :: keys, v =>
    (Section.ofValue? v).bind fun s =>
      match s.entry? key.position key.name with
      | none => some none
      | some v => entryAt? keys v

/-- The value that is read at the end of keys, or the default if nothing stands there. -/
def readAt {α : Type} (read : Toml.Value → Option α) (default : α) (keys : List Key)
    (v : Toml.Value) : Option α :=
  (entryAt? keys v).bind fun
    | none => some default
    | some v => read v

section

variable {α : Type} (read : Toml.Value → Option α) (default : α)

theorem readAt_nil : readAt read default [] = read := rfl

/-- Keys are followed from section to section. -/
theorem readAt_cons (key : Key) (keys : List Key) (v : Toml.Value) :
    readAt read default (key :: keys) v = (Section.ofValue? v).bind fun s =>
      s.get key.position key.name (readAt read default keys) default := by
  rw [readAt, entryAt?]
  cases Section.ofValue? v with
  | none => rfl
  | some s =>
    rw [Option.bind_some, Option.bind_some, Section.get]
    cases s.entry? key.position key.name <;> rfl

end

/-- An entry of a section gives a value at the end of keys. If there is no entry, or nothing at the
end of the keys, the value is the default. -/
def Section.Gives {α : Type} (s : Section) (position : Nat) (name : String) (keys : List Key)
    (read : Toml.Value → Option α) (default x : α) : Prop :=
  s.get position name (readAt read default keys) default = some x

/-- A login section gives each of its settings a value. -/
theorem Section.get_login_eq_some_iff (s : Section) (position : Nat) (name : String)
    (x : LoginSettings) : s.get position name login? {} = some x ↔
      s.Gives position name [⟨0, "enabled"⟩] flag? false x.enabled ∧
      s.Gives position name [⟨1, "username"⟩] text? "" x.username ∧
      s.Gives position name [⟨2, "password"⟩] text? "" x.password := by
  simp only [Section.Gives, Section.get]
  cases s.entry? position name with
  | none =>
    obtain ⟨enabled, username, password⟩ := x
    grind
  | some v =>
    simp only [login?, readAt_cons, readAt_nil, Option.bind_eq_bind, Option.bind_eq_some_iff,
      Option.pure_def, Option.some.injEq]
    grind

/-- The section of the proxy gives each of its settings a value, those of the login too. -/
theorem Section.get_proxy_eq_some_iff (s : Section) (position : Nat) (name : String)
    (x : ProxySettings) : s.get position name proxy? {} = some x ↔
      s.Gives position name [⟨0, "address"⟩] text? "0.0.0.0" x.address ∧
      s.Gives position name [⟨1, "port"⟩] word16? 1080 x.port ∧
      s.Gives position name [⟨2, "max_connections"⟩] word64? 10000 x.maxConnections ∧
      s.Gives position name [⟨3, "auth"⟩, ⟨0, "enabled"⟩] flag? false x.login.enabled ∧
      s.Gives position name [⟨3, "auth"⟩, ⟨1, "username"⟩] text? "" x.login.username ∧
      s.Gives position name [⟨3, "auth"⟩, ⟨2, "password"⟩] text? "" x.login.password ∧
      s.Gives position name [⟨4, "ip_whitelist"⟩] texts? [] x.allowList := by
  simp only [Section.Gives, Section.get]
  cases s.entry? position name with
  | none =>
    obtain ⟨address, port, most, ⟨enabled, username, password⟩, allowed⟩ := x
    grind
  | some v =>
    simp only [proxy?, Section.get_login_eq_some_iff, Section.Gives, readAt_cons, readAt_nil,
      Option.bind_eq_bind, Option.bind_eq_some_iff, Option.pure_def, Option.some.injEq]
    grind

/-- The section of the query interface gives each of its settings a value. -/
theorem Section.get_api_eq_some_iff (s : Section) (position : Nat) (name : String)
    (x : ApiSettings) : s.get position name api? {} = some x ↔
      s.Gives position name [⟨0, "address"⟩] text? "0.0.0.0" x.address ∧
      s.Gives position name [⟨1, "port"⟩] word16? 8080 x.port := by
  simp only [Section.Gives, Section.get]
  cases s.entry? position name with
  | none =>
    obtain ⟨address, port⟩ := x
    grind
  | some v =>
    simp only [api?, readAt_cons, readAt_nil, Option.bind_eq_bind, Option.bind_eq_some_iff,
      Option.pure_def, Option.some.injEq]
    grind

/-- The section of the store gives its setting a value. -/
theorem Section.get_store_eq_some_iff (s : Section) (position : Nat) (name : String)
    (x : StoreSettings) : s.get position name store? {} = some x ↔
      s.Gives position name [⟨0, "path"⟩] text? "./data/socks5-analytics.db" x.path := by
  simp only [Section.Gives, Section.get]
  cases s.entry? position name with
  | none =>
    obtain ⟨path⟩ := x
    grind
  | some v =>
    simp only [store?, readAt_cons, readAt_nil, Option.bind_eq_bind, Option.bind_eq_some_iff,
      Option.pure_def, Option.some.injEq]
    grind

/-- The section of the pipeline gives each of its settings a value. -/
theorem Section.get_pipeline_eq_some_iff (s : Section) (position : Nat) (name : String)
    (x : PipelineSettings) : s.get position name pipeline? {} = some x ↔
      s.Gives position name [⟨0, "workers"⟩] word64? 4 x.workers ∧
      s.Gives position name [⟨1, "buffer_size"⟩] word64? 10000 x.inputCapacity ∧
      s.Gives position name [⟨2, "output_buffer_size"⟩] word64? 10000 x.outputCapacity ∧
      s.Gives position name [⟨3, "batch_size"⟩] word64? 100 x.batchSize ∧
      s.Gives position name [⟨4, "flush_interval_ms"⟩] word64? 5000 x.flushMillis := by
  simp only [Section.Gives, Section.get]
  cases s.entry? position name with
  | none =>
    obtain ⟨workers, input, queue, batch, millis⟩ := x
    grind
  | some v =>
    simp only [pipeline?, readAt_cons, readAt_nil, Option.bind_eq_bind, Option.bind_eq_some_iff,
      Option.pure_def, Option.some.injEq]
    grind

/-- The section of the log gives each of its settings a value. -/
theorem Section.get_log_eq_some_iff (s : Section) (position : Nat) (name : String)
    (x : LogSettings) : s.get position name log? {} = some x ↔
      s.Gives position name [⟨0, "level"⟩] text? "info" x.level ∧
      s.Gives position name [⟨1, "format"⟩] text? "text" x.format ∧
      s.Gives position name [⟨2, "dir"⟩] (fun v => (text? v).map some) none x.directory := by
  simp only [Section.Gives, Section.get]
  cases s.entry? position name with
  | none =>
    obtain ⟨level, format, directory⟩ := x
    grind
  | some v =>
    simp only [log?, readAt_cons, readAt_nil, Option.bind_eq_bind, Option.bind_eq_some_iff,
      Option.pure_def, Option.some.injEq]
    grind

/-- The section of the rate limit gives each of its settings a value. -/
theorem Section.get_rate_eq_some_iff (s : Section) (position : Nat) (name : String)
    (x : RateSettings) : s.get position name rate? {} = some x ↔
      s.Gives position name [⟨0, "enabled"⟩] flag? false x.enabled ∧
      s.Gives position name [⟨1, "requests_per_second"⟩] word32? 100 x.perSecond := by
  simp only [Section.Gives, Section.get]
  cases s.entry? position name with
  | none =>
    obtain ⟨enabled, rate⟩ := x
    grind
  | some v =>
    simp only [rate?, readAt_cons, readAt_nil, Option.bind_eq_bind, Option.bind_eq_some_iff,
      Option.pure_def, Option.some.injEq]
    grind

/-! ### Whole documents -/

namespace Variable

/-- The key of the section that the setting of a variable is in. -/
def home : Variable → Key
  | proxyAddress | proxyPort | proxyMaxConnections | proxyAuthEnabled | proxyAuthUsername
  | proxyAuthPassword | proxyAllowList => ⟨0, "proxy"⟩
  | apiAddress | apiPort => ⟨1, "api"⟩
  | storePath => ⟨2, "database"⟩
  | pipelineWorkers | pipelineInputCapacity | pipelineOutputCapacity | pipelineBatchSize
  | pipelineFlushMillis => ⟨3, "pipeline"⟩
  | logLevel | logFormat | logDirectory => ⟨4, "logging"⟩
  | rateEnabled | ratePerSecond => ⟨5, "rate_limit"⟩

/-- The keys of the setting of a variable in its section. -/
def keys : Variable → List Key
  | proxyAddress => [⟨0, "address"⟩]
  | proxyPort => [⟨1, "port"⟩]
  | proxyMaxConnections => [⟨2, "max_connections"⟩]
  | proxyAuthEnabled => [⟨3, "auth"⟩, ⟨0, "enabled"⟩]
  | proxyAuthUsername => [⟨3, "auth"⟩, ⟨1, "username"⟩]
  | proxyAuthPassword => [⟨3, "auth"⟩, ⟨2, "password"⟩]
  | proxyAllowList => [⟨4, "ip_whitelist"⟩]
  | apiAddress => [⟨0, "address"⟩]
  | apiPort => [⟨1, "port"⟩]
  | storePath => [⟨0, "path"⟩]
  | pipelineWorkers => [⟨0, "workers"⟩]
  | pipelineInputCapacity => [⟨1, "buffer_size"⟩]
  | pipelineOutputCapacity => [⟨2, "output_buffer_size"⟩]
  | pipelineBatchSize => [⟨3, "batch_size"⟩]
  | pipelineFlushMillis => [⟨4, "flush_interval_ms"⟩]
  | logLevel => [⟨0, "level"⟩]
  | logFormat => [⟨1, "format"⟩]
  | logDirectory => [⟨2, "dir"⟩]
  | rateEnabled => [⟨0, "enabled"⟩]
  | ratePerSecond => [⟨1, "requests_per_second"⟩]

/-- The value that a document gives the setting of a variable. -/
def inTree? (v : Variable) (tree : Toml.Value) : Option v.kind.Value :=
  readAt v.kind.ofToml? (v.get {}) (v.home :: v.keys) tree

/-- What holds of all variables, one by one. -/
theorem forall_iff (P : Variable → Prop) : (∀ v, P v) ↔
    P .proxyAddress ∧ P .proxyPort ∧ P .proxyMaxConnections ∧ P .proxyAuthEnabled ∧
      P .proxyAuthUsername ∧ P .proxyAuthPassword ∧ P .proxyAllowList ∧ P .apiAddress ∧
      P .apiPort ∧ P .storePath ∧ P .pipelineWorkers ∧ P .pipelineInputCapacity ∧
      P .pipelineOutputCapacity ∧ P .pipelineBatchSize ∧ P .pipelineFlushMillis ∧ P .logLevel ∧
      P .logFormat ∧ P .logDirectory ∧ P .rateEnabled ∧ P .ratePerSecond := by
  constructor
  · intro all
    exact ⟨all _, all _, all _, all _, all _, all _, all _, all _, all _, all _, all _, all _,
      all _, all _, all _, all _, all _, all _, all _, all _⟩
  · rintro ⟨_, _, _, _, _, _, _, _, _, _, _, _, _, _, _, _, _, _, _, _⟩ v
    cases v <;> assumption

end Variable

/-- Settings can be put together of values for all variables. -/
theorem exists_get (value : (v : Variable) → v.kind.Value) :
    ∃ s : Settings, ∀ v : Variable, v.get s = value v := by
  refine ⟨{
    proxy := {
      address := value .proxyAddress
      port := value .proxyPort
      maxConnections := value .proxyMaxConnections
      login := {
        enabled := value .proxyAuthEnabled
        username := value .proxyAuthUsername
        password := value .proxyAuthPassword }
      allowList := value .proxyAllowList }
    api := { address := value .apiAddress, port := value .apiPort }
    store := { path := value .storePath }
    pipeline := {
      workers := value .pipelineWorkers
      inputCapacity := value .pipelineInputCapacity
      outputCapacity := value .pipelineOutputCapacity
      batchSize := value .pipelineBatchSize
      flushMillis := value .pipelineFlushMillis }
    log := {
      level := value .logLevel
      format := value .logFormat
      directory := value .logDirectory }
    rate := { enabled := value .rateEnabled, perSecond := value .ratePerSecond } }, fun v => ?_⟩
  cases v <;> rfl

/-- A document gives settings exactly if it gives each of them a value by itself. -/
theorem ofDocument?_eq_some_iff (tree : Toml.Value) (s : Settings) :
    ofDocument? tree = some s ↔ ∀ v : Variable, v.inTree? tree = some (v.get s) := by
  cases found : Section.ofValue? tree with
  | none =>
    have spoilt : Variable.inTree? .proxyAddress tree = none := by
      rw [Variable.inTree?, readAt_cons, found]
      rfl
    have nothing : ofDocument? tree = none := by
      rw [ofDocument?, found]
      rfl
    rw [nothing]
    refine ⟨nofun, fun given => ?_⟩
    cases spoilt.symm.trans (given .proxyAddress)
  | some entries =>
    have part (v : Variable) : v.inTree? tree =
        entries.get v.home.position v.home.name (readAt v.kind.ofToml? (v.get {}) v.keys)
          (v.get {}) := by
      rw [Variable.inTree?, readAt_cons, found]
      rfl
    have whole : ofDocument? tree = some s ↔
        entries.get 0 "proxy" proxy? {} = some s.proxy ∧ entries.get 1 "api" api? {} = some s.api ∧
        entries.get 2 "database" store? {} = some s.store ∧
        entries.get 3 "pipeline" pipeline? {} = some s.pipeline ∧
        entries.get 4 "logging" log? {} = some s.log ∧
        entries.get 5 "rate_limit" rate? {} = some s.rate := by
      simp only [ofDocument?, found, Option.bind_eq_bind, Option.bind_eq_some_iff, Option.pure_def,
        Option.some.injEq]
      grind
    rw [whole, Section.get_proxy_eq_some_iff, Section.get_api_eq_some_iff,
      Section.get_store_eq_some_iff, Section.get_pipeline_eq_some_iff, Section.get_log_eq_some_iff,
      Section.get_rate_eq_some_iff, Variable.forall_iff]
    simp only [part, and_assoc]
    exact Iff.rfl

/-- A document that does not give one setting a value gives no settings. -/
theorem ofDocument?_eq_none_iff (tree : Toml.Value) :
    ofDocument? tree = none ↔ ∃ v : Variable, v.inTree? tree = none := by
  constructor
  · intro nothing
    by_contra given
    -- Values for all variables make settings, which the document then gives.
    have values (v : Variable) : (v.inTree? tree).isSome = true :=
      Option.isSome_iff_ne_none.mpr fun none => given ⟨v, none⟩
    obtain ⟨s, same⟩ := exists_get fun v => (v.inTree? tree).get (values v)
    have whole := (ofDocument?_eq_some_iff tree s).mpr fun v => by rw [same, Option.some_get]
    cases nothing.symm.trans whole
  · rintro ⟨v, spoilt⟩
    rw [Option.eq_none_iff_forall_ne_some]
    intro s given
    cases spoilt.symm.trans ((ofDocument?_eq_some_iff tree s).mp given v)

end ProxyMeter.Settings
