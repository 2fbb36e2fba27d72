import Mathlib.Data.List.TakeWhile
import ProxyMeter.Proofs.Settings.Kinds

/-!
# What a variable of the environment sets

Every setting has one variable, and every variable sets one setting: `Variable.get` and
`Variable.set` are the two directions. The settings under an environment are then known variable by
variable, up to the first that cannot be read.
-/

namespace ProxyMeter.Settings

/-! ### The setting of a variable -/

namespace Variable

/-- The kind of the setting of a variable. -/
abbrev kind : Variable → Kind
  | proxyAddress | proxyAuthUsername | proxyAuthPassword | apiAddress | storePath | logLevel
  | logFormat => .text
  | logDirectory => .optionalText
  | proxyAllowList => .texts
  | proxyAuthEnabled | rateEnabled => .flag
  | proxyPort | apiPort => .word16
  | ratePerSecond => .word32
  | proxyMaxConnections | pipelineWorkers | pipelineInputCapacity | pipelineOutputCapacity
  | pipelineBatchSize | pipelineFlushMillis => .word64

/-- The setting of a variable. -/
def get (s : Settings) : (v : Variable) → v.kind.Value
  | proxyAddress => s.proxy.address
  | proxyPort => s.proxy.port
  | proxyMaxConnections => s.proxy.maxConnections
  | proxyAuthEnabled => s.proxy.login.enabled
  | proxyAuthUsername => s.proxy.login.username
  | proxyAuthPassword => s.proxy.login.password
  | proxyAllowList => s.proxy.allowList
  | apiAddress => s.api.address
  | apiPort => s.api.port
  | storePath => s.store.path
  | pipelineWorkers => s.pipeline.workers
  | pipelineInputCapacity => s.pipeline.inputCapacity
  | pipelineOutputCapacity => s.pipeline.outputCapacity
  | pipelineBatchSize => s.pipeline.batchSize
  | pipelineFlushMillis => s.pipeline.flushMillis
  | logLevel => s.log.level
  | logFormat => s.log.format
  | logDirectory => s.log.directory
  | rateEnabled => s.rate.enabled
  | ratePerSecond => s.rate.perSecond

/-- The settings with another value for the setting of a variable. -/
def set (s : Settings) : (v : Variable) → v.kind.Value → Settings
  | proxyAddress, x => { s with proxy.address := x }
  | proxyPort, x => { s with proxy.port := x }
  | proxyMaxConnections, x => { s with proxy.maxConnections := x }
  | proxyAuthEnabled, x => { s with proxy.login.enabled := x }
  | proxyAuthUsername, x => { s with proxy.login.username := x }
  | proxyAuthPassword, x => { s with proxy.login.password := x }
  | proxyAllowList, x => { s with proxy.allowList := x }
  | apiAddress, x => { s with api.address := x }
  | apiPort, x => { s with api.port := x }
  | storePath, x => { s with store.path := x }
  | pipelineWorkers, x => { s with pipeline.workers := x }
  | pipelineInputCapacity, x => { s with pipeline.inputCapacity := x }
  | pipelineOutputCapacity, x => { s with pipeline.outputCapacity := x }
  | pipelineBatchSize, x => { s with pipeline.batchSize := x }
  | pipelineFlushMillis, x => { s with pipeline.flushMillis := x }
  | logLevel, x => { s with log.level := x }
  | logFormat, x => { s with log.format := x }
  | logDirectory, x => { s with log.directory := x }
  | rateEnabled, x => { s with rate.enabled := x }
  | ratePerSecond, x => { s with rate.perSecond := x }

/-- A setting that is given a value has it. -/
theorem get_set_self (s : Settings) (v : Variable) (x : v.kind.Value) : v.get (v.set s x) = x := by
  cases v <;> rfl

/-- A setting that is given the value that it has stays as it is. -/
theorem set_get (s : Settings) (v : Variable) : v.set s (v.get s) = s := by
  cases v <;> rfl

/-- A setting is not changed by a value for another. -/
theorem get_set_of_ne (s : Settings) {v w : Variable} (other : w ≠ v) (x : v.kind.Value) :
    w.get (v.set s x) = w.get s := by
  cases v <;> cases w <;> first | rfl | exact absurd rfl other

/-- Settings are known by the settings of all variables. -/
theorem eq_of_get_eq {s s' : Settings} (same : ∀ v : Variable, v.get s = v.get s') : s = s' := by
  obtain ⟨⟨address, port, most, ⟨login, user, password⟩, allowed⟩, ⟨host, port'⟩, ⟨path⟩,
    ⟨workers, input, queue, batch, millis⟩, ⟨level, format, directory⟩, ⟨limited, rate⟩⟩ := s
  obtain rfl := same .proxyAddress
  obtain rfl := same .proxyPort
  obtain rfl := same .proxyMaxConnections
  obtain rfl := same .proxyAuthEnabled
  obtain rfl := same .proxyAuthUsername
  obtain rfl := same .proxyAuthPassword
  obtain rfl := same .proxyAllowList
  obtain rfl := same .apiAddress
  obtain rfl := same .apiPort
  obtain rfl := same .storePath
  obtain rfl := same .pipelineWorkers
  obtain rfl := same .pipelineInputCapacity
  obtain rfl := same .pipelineOutputCapacity
  obtain rfl := same .pipelineBatchSize
  obtain rfl := same .pipelineFlushMillis
  obtain rfl := same .logLevel
  obtain rfl := same .logFormat
  obtain rfl := same .logDirectory
  obtain rfl := same .rateEnabled
  obtain rfl := same .ratePerSecond
  rfl

/-- No variable is missing from the list of all. -/
theorem mem_all (v : Variable) : v ∈ all := by
  cases v <;> decide

/-- A variable overrides its setting by the value that it stands for. -/
theorem override_eq (v : Variable) (raw : String) (s : Settings) :
    override v raw s = (v.kind.ofRaw? raw).map (v.set s) := by
  cases v <;> rfl

/-! ### The settings under an environment -/

/-- Whether a variable is unset or has a value that can be read. -/
def isReadable (env : Environment) (v : Variable) : Bool :=
  match v.value? env with
  | none => true
  | some raw => (v.kind.ofRaw? raw).isSome

/-- The value of a setting under an environment, with its value without it. -/
def under (env : Environment) (v : Variable) (x : v.kind.Value) : v.kind.Value :=
  match v.value? env with
  | none => x
  | some raw => (v.kind.ofRaw? raw).getD x

/-- A variable that is not set leaves its setting as it is. -/
theorem under_of_unset {env : Environment} {v : Variable} (unset : v.value? env = none)
    (x : v.kind.Value) : v.under env x = x := by
  rw [under, unset]

/-- A variable that is set and can be read decides. -/
theorem under_of_set {env : Environment} {v : Variable} {raw : String} {y : v.kind.Value}
    (set : v.value? env = some raw) (read : v.kind.ofRaw? raw = some y) (x : v.kind.Value) :
    v.under env x = y := by
  simp [under, set, read]

/-- Under an environment a setting is as the environment has it already. -/
theorem under_under (env : Environment) (v : Variable) (x : v.kind.Value) :
    v.under env (v.under env x) = v.under env x := by
  unfold under
  cases v.value? env with
  | none => rfl
  | some raw => cases h : v.kind.ofRaw? raw <;> simp [h]

end Variable

/-- Settings with those of some variables under an environment. -/
def under (env : Environment) (vs : List Variable) (s : Settings) : Settings :=
  vs.foldl (fun s v => v.set s (v.under env (v.get s))) s

/-- The settings of the variables are under the environment, and the others as they were. -/
theorem get_under (env : Environment) (vs : List Variable) (s : Settings) (w : Variable) :
    w.get (s.under env vs) = if w ∈ vs then w.under env (w.get s) else w.get s := by
  induction vs generalizing s with
  | nil => rfl
  | cons v vs ih =>
    rw [under, List.foldl_cons, ← under, ih]
    by_cases same : w = v
    · subst same
      rw [Variable.get_set_self, Variable.under_under]
      simp
    · rw [Variable.get_set_of_ne s same]
      simp [same]

/-- Settings under an environment are under it already. -/
theorem under_under_all (env : Environment) (s : Settings) :
    (s.under env Variable.all).under env Variable.all = s.under env Variable.all := by
  refine Variable.eq_of_get_eq fun v => ?_
  rw [get_under, if_pos (Variable.mem_all v), get_under, if_pos (Variable.mem_all v),
    Variable.under_under]

/-- The fault of a variable. -/
def faultOf (env : Environment) (v : Variable) : Fault :=
  .variable v.name ((v.value? env).getD "")

/-- The variables up to the first that cannot be read are applied, and this one is the fault. -/
theorem overrideAll_eq (env : Environment) (vs : List Variable) (s : Settings) :
    overrideAll env vs s = (s.under env (vs.takeWhile (Variable.isReadable env)),
      (vs.find? fun v => !v.isReadable env).map (faultOf env)) := by
  induction vs generalizing s with
  | nil => rfl
  | cons v vs ih =>
    have first (vs : List Variable) :
        s.under env (v :: vs) = (v.set s (v.under env (v.get s))).under env vs := rfl
    rw [overrideAll, List.takeWhile_cons, List.find?_cons]
    cases value : v.value? env with
    | none =>
      have readable : v.isReadable env = true := by rw [Variable.isReadable, value]
      have same := Variable.under_of_unset value (v.get s)
      simp only [readable, Bool.not_true, if_true]
      rw [first, same, Variable.set_get]
      exact ih s
    | some raw =>
      cases read : v.kind.ofRaw? raw with
      | none =>
        have unreadable : v.isReadable env = false := by
          simp [Variable.isReadable, value, read]
        simp only [unreadable, Variable.override_eq, read, Option.map_none, Bool.not_false,
          Option.map_some, faultOf, value, Option.getD_some]
        rfl
      | some x =>
        have readable : v.isReadable env = true := by
          simp [Variable.isReadable, value, read]
        have set := Variable.under_of_set value read (v.get s)
        simp only [readable, Variable.override_eq, read, Option.map_some, Bool.not_true, if_true]
        rw [first, set]
        exact ih _

/-- There is a fault exactly if there is a variable that cannot be read. -/
theorem overridden_snd_eq_none_iff (env : Environment) (s : Settings) :
    (s.overridden env).2 = none ↔ ∀ v : Variable, v.isReadable env := by
  rw [overridden, overrideAll_eq, Option.map_eq_none_iff, List.find?_eq_none]
  simp only [Bool.not_eq_true', Bool.not_eq_false]
  exact ⟨fun readable v => readable v (Variable.mem_all v), fun readable v _ => readable v⟩

/-- The settings under an environment all of whose variables can be read. -/
theorem overridden_of_readable {env : Environment} (readable : ∀ v : Variable, v.isReadable env)
    (s : Settings) : s.overridden env = (s.under env Variable.all, none) := by
  have whole : Variable.all.takeWhile (Variable.isReadable env) = Variable.all :=
    List.takeWhile_eq_self_iff.mpr fun v _ => readable v
  have noFault := (overridden_snd_eq_none_iff env s).mpr readable
  rw [overridden, overrideAll_eq] at noFault ⊢
  dsimp only at noFault
  rw [whole, noFault]

/-- What is left of settings when a variable cannot be read. -/
structure StopsAt (env : Environment) (s s' : Settings) (fault : Fault) (before : List Variable)
    (v : Variable) (after : List Variable) : Prop where
  order : Variable.all = before ++ v :: after
  first : ∀ u ∈ before, u.isReadable env
  unreadable : ∃ raw, v.value? env = some raw ∧ v.kind.ofRaw? raw = none ∧
    fault = .variable v.name raw
  applied : ∀ u ∈ before, u.get s' = u.under env (u.get s)
  unchanged : ∀ u ∉ before, u.get s' = u.get s

/-- Of the variables that cannot be read the first is the fault. What comes before it is applied,
and nothing else. -/
theorem stopsAt_of_fault {env : Environment} {s : Settings} {fault : Fault}
    (h : (s.overridden env).2 = some fault) :
    ∃ before v after, StopsAt env s (s.overridden env).1 fault before v after := by
  rw [overridden, overrideAll_eq] at h ⊢
  obtain ⟨v, found, rfl⟩ := Option.map_eq_some_iff.mp h
  obtain ⟨unreadable, before, after, order, first⟩ := List.find?_eq_some_iff_append.mp found
  simp only [Bool.not_eq_true', Bool.not_not] at unreadable first
  have taken : Variable.all.takeWhile (Variable.isReadable env) = before := by
    rw [order, List.takeWhile_append_of_pos first,
      List.takeWhile_cons_of_neg (by simp [unreadable]), List.append_nil]
  rw [taken]
  refine ⟨before, v, after, order, first, ?_, fun u member => ?_, fun u other => ?_⟩
  · cases value : v.value? env with
    | none => simp [Variable.isReadable, value] at unreadable
    | some raw =>
      refine ⟨raw, rfl, ?_, by simp [faultOf, value]⟩
      simpa [Variable.isReadable, value] using unreadable
  · rw [get_under, if_pos member]
  · rw [get_under, if_neg other]

end ProxyMeter.Settings
