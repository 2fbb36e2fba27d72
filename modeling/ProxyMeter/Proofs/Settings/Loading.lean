import ProxyMeter.Proofs.Settings.Document
import ProxyMeter.Proofs.Settings.Validation
import ProxyMeter.Settings.Load

/-!
# Which settings are loaded

Each setting is loaded by itself: its variable decides if it is set, else the document if it has an
entry for it, else the default. One variable that cannot be read, or one entry of the document that
cannot, and nothing is loaded.
-/

namespace ProxyMeter.Settings

/-- A document that was parsed, with its path. -/
abbrev Source := Option (String × Toml.Value)

/-- The document that is taken, if one is. -/
def document (files : Files) (asked : Option String) : Except Fault Source :=
  match documentPath? files asked with
  | none => .ok none
  | some path =>
    match files path with
    | none => .error (.unreadable path)
    | some bytes =>
      match Text.ofUtf8? bytes with
      | none => .error (.unreadable path)
      | some text =>
        match Toml.parse? text with
        | none => .error (.malformed path)
        | some tree => .ok (some (path, tree))

/-- The settings that a document gives, or the defaults without one. -/
def ofSource : Source → Except Fault Settings
  | none => .ok {}
  | some (path, tree) =>
    match ofDocument? tree with
    | none => .error (.malformed path)
    | some s => .ok s

/-- Loading takes a document, reads it, and goes over to the environment. -/
theorem load_eq (files : Files) (env : Environment) (asked : Option String) :
    load files env asked =
      (document files asked).bind fun source => (ofSource source).bind (finish env) := by
  unfold load document
  cases documentPath? files asked with
  | none => rfl
  | some path =>
    dsimp only [ofFile]
    cases files path with
    | none => rfl
    | some bytes =>
      dsimp only [ofBytes]
      cases Text.ofUtf8? bytes with
      | none => rfl
      | some text =>
        dsimp only
        cases Toml.parse? text with
        | none => rfl
        | some tree => cases given : ofDocument? tree <;> simp [Except.bind, ofSource, given]

namespace Variable

/-- What a document has for the setting of a variable: an entry, or none; nothing at all if on the
way to it there is something that is no section. -/
def entryIn? (v : Variable) : Source → Option (Option Toml.Value)
  | none => some none
  | some (_, tree) => entryAt? (v.home :: v.keys) tree

/-- The value that a document gives the setting of a variable: that of its entry, or the default if
there is no entry. -/
def given? (v : Variable) (source : Source) : Option v.kind.Value :=
  (v.entryIn? source).bind fun
    | none => some (v.get {})
    | some entry => v.kind.ofToml? entry

end Variable

/-- A setting is the one of its variable, or of its entry, or the default, in this order. -/
structure Layers (env : Environment) (source : Source) (s : Settings) : Prop where
  environment : ∀ (v : Variable) raw, v.value? env = some raw → v.kind.ofRaw? raw = some (v.get s)
  entry : ∀ (v : Variable) entry, v.value? env = none → v.entryIn? source = some (some entry) →
    v.kind.ofToml? entry = some (v.get s)
  default : ∀ v : Variable, v.value? env = none → v.entryIn? source = some none →
    v.get s = v.get {}

/-- A variable that cannot be read is the fault of loading. -/
theorem finish_eq_error {env : Environment} {s : Settings} {fault : Fault}
    (h : (s.overridden env).2 = some fault) : finish env s = .error fault := by
  rw [finish]
  split
  · next s' fault' found =>
    rw [found] at h
    cases h
    rfl
  · next s' found =>
    rw [found] at h
    cases h

/-- Settings under an environment are loaded if all variables can be read and they are valid. -/
theorem finish_eq_ok_iff (env : Environment) (s s' : Settings) : finish env s = .ok s' ↔
    (∀ v : Variable, v.isReadable env) ∧ s' = s.under env Variable.all ∧ s'.IsValid := by
  cases fault : (s.overridden env).2 with
  | some f =>
    have unreadable : ¬ ∀ v : Variable, v.isReadable env := by
      rw [← overridden_snd_eq_none_iff env s, fault]
      exact nofun
    rw [finish_eq_error fault]
    exact ⟨nofun, fun h => absurd h.1 unreadable⟩
  | none =>
    have readable := (overridden_snd_eq_none_iff env s).mp fault
    rw [finish, overridden_of_readable readable]
    dsimp only
    cases invalid : (s.under env Variable.all).fault? with
    | none =>
      have valid := (fault?_eq_none_iff _).mp invalid
      constructor
      · intro same
        cases same
        exact ⟨readable, rfl, valid⟩
      · rintro ⟨-, rfl, -⟩
        rfl
    | some f =>
      refine ⟨nofun, ?_⟩
      rintro ⟨-, rfl, valid⟩
      cases invalid.symm.trans ((fault?_eq_none_iff _).mpr valid)

/-- A document, or the lack of one, gives settings exactly if it gives each of them a value. -/
theorem ofSource_eq_ok_iff (source : Source) (s : Settings) :
    ofSource source = .ok s ↔ ∀ v : Variable, v.given? source = some (v.get s) := by
  cases source with
  | none =>
    constructor
    · rintro ⟨⟩ v
      rfl
    · intro same
      exact congrArg Except.ok (Variable.eq_of_get_eq fun v => Option.some.inj (same v))
  | some source =>
    obtain ⟨path, tree⟩ := source
    have given : ofSource (some (path, tree)) = .ok s ↔ ofDocument? tree = some s := by
      rw [ofSource]
      cases ofDocument? tree <;> simp
    exact given.trans (ofDocument?_eq_some_iff tree s)

/-- A setting under an environment is the one of its variable, or of the document, or the
default. -/
theorem layers_iff {env : Environment} {source : Source} {s₀ s : Settings}
    (given : ∀ v : Variable, v.given? source = some (v.get s₀)) :
    Layers env source s ↔ (∀ v : Variable, v.isReadable env) ∧ s = s₀.under env Variable.all := by
  have under (v : Variable) : v.get (s₀.under env Variable.all) = v.under env (v.get s₀) := by
    rw [get_under, if_pos (Variable.mem_all v)]
  constructor
  · intro layers
    refine ⟨fun v => ?_, Variable.eq_of_get_eq fun v => ?_⟩
    · cases value : v.value? env with
      | none => simp [Variable.isReadable, value]
      | some raw => simp [Variable.isReadable, value, layers.environment v raw value]
    rw [under]
    cases value : v.value? env with
    | some raw =>
      rw [Variable.under_of_set value (layers.environment v raw value)]
    | none =>
      rw [Variable.under_of_unset value]
      have here := given v
      rw [Variable.given?] at here
      cases found : v.entryIn? source with
      | none =>
        rw [found] at here
        cases here
      | some entry =>
        rw [found] at here
        cases entry with
        | none => exact (layers.default v value found).trans (Option.some.inj here)
        | some entry => exact Option.some.inj ((layers.entry v entry value found).symm.trans here)
  · rintro ⟨readable, rfl⟩
    refine ⟨fun v raw set => ?_, fun v entry unset found => ?_, fun v unset found => ?_⟩
    · obtain ⟨x, read⟩ : ∃ x, v.kind.ofRaw? raw = some x := by
        simpa [Variable.isReadable, set, Option.isSome_iff_exists] using readable v
      rw [under, Variable.under_of_set set read, read]
    · rw [under, Variable.under_of_unset unset, ← given v, Variable.given?, found]
      rfl
    · have here := given v
      rw [Variable.given?, found] at here
      rw [under, Variable.under_of_unset unset]
      exact (Option.some.inj here).symm

/-- How settings are loaded from files and an environment. -/
structure Loading (files : Files) (env : Environment) (asked : Option String) : Prop where
  /-- Settings are loaded exactly if the document, if there is one, can be read, gives every setting
  a value, and the settings that have the layers in their order are valid. -/
  loads : ∀ s, load files env asked = .ok s ↔ ∃ source, document files asked = .ok source ∧
    (∀ v : Variable, (v.given? source).isSome) ∧ Layers env source s ∧ s.IsValid
  /-- Loaded settings do not change when they are brought under the environment again. -/
  again : ∀ s, load files env asked = .ok s → s.overridden env = (s, none)
  /-- A document that does not give every setting a value gives none. -/
  spoilt : ∀ path tree, document files asked = .ok (some (path, tree)) →
    (∃ v : Variable, v.given? (some (path, tree)) = none) →
    load files env asked = .error (.malformed path)
  /-- There is a fault of the environment exactly if some variable cannot be read, -/
  faultless : ∀ s : Settings, (s.overridden env).2 = none ↔ ∀ v : Variable, v.isReadable env
  /-- and of the variables that cannot be read the first is the fault, -/
  stops : ∀ (s : Settings) fault, (s.overridden env).2 = some fault →
    finish env s = .error fault ∧
      ∃ before v after, StopsAt env s (s.overridden env).1 fault before v after
  /-- with which loading fails, if the document gives every setting a value. -/
  unreadable : ∀ source (s : Settings), document files asked = .ok source →
    (∀ v : Variable, v.given? source = some (v.get s)) → (∃ v : Variable, ¬ v.isReadable env) →
    ∃ fault before v after, load files env asked = .error fault ∧
      StopsAt env s (s.overridden env).1 fault before v after
  /-- What a variable, and an entry of a document, stands for. -/
  readings : ∀ raw, Readings raw
  entries : ∀ v, Entries v

/-- Settings are loaded by a document that gives them, if all variables can be read. -/
theorem load_eq_ok_iff (files : Files) (env : Environment) (asked : Option String) (s : Settings) :
    load files env asked = .ok s ↔ ∃ source s₀, document files asked = .ok source ∧
      (∀ v : Variable, v.given? source = some (v.get s₀)) ∧ (∀ v : Variable, v.isReadable env) ∧
      s = s₀.under env Variable.all ∧ s.IsValid := by
  have bind {α β : Type} (e : Except Fault α) (f : α → Except Fault β) (b : β) :
      e.bind f = .ok b ↔ ∃ a, e = .ok a ∧ f a = .ok b := by
    cases e <;> simp [Except.bind]
  simp only [load_eq, bind, ofSource_eq_ok_iff, finish_eq_ok_iff]
  grind

private def someFiles : Files
  | "plain.toml" => some (Text.utf8 "[proxy]\nport = 1081\naddress = \"192.0.2.7\"\n")
  | "array.toml" => some (Text.utf8 "proxy = [\"192.0.2.7\"]\n")
  | "date.toml" => some (Text.utf8 "proxy = 1979-05-27\n")
  | _ => none

private def someVariables : Environment
  | "PROXY_ADDRESS" => some "127.0.0.1"
  | "PROXY_IP_WHITELIST" => some "10.0.0.1, ,10.0.0.2"
  | "API_PORT" => some ""
  | _ => none

example : load someFiles someVariables (some "plain.toml") = .ok {
    proxy := { address := "127.0.0.1", port := 1081, allowList := ["10.0.0.1", "10.0.0.2"] } } := by
  decide +kernel

end ProxyMeter.Settings
