import ProxyMeter.Proofs.Settings.Overrides
import ProxyMeter.Proofs.Socks.Hosts
import ProxyMeter.Session.Server
import ProxyMeter.Store.Memory

/-!
# Which settings restrict the clients of a server

A server asks who may pass if its settings have an allow-list that is not empty. The list in the
environment takes the place of the one in the settings unless it is an empty text, and it may name
nobody without being an empty text: a comma is enough. Then the server is open to everybody.
-/

namespace ProxyMeter

namespace Settings

/-- A list that names nobody: it has nothing but commas and blanks. -/
def NamesNobody (raw : String) : Prop := ∀ c ∈ raw.toList, c = ',' ∨ Text.isBlank c = true

/-- A list has no parts exactly if it names nobody. -/
theorem partsOf_eq_nil_iff (raw : String) : partsOf raw = [] ↔ NamesNobody raw := by
  have empty (piece : String) : Text.trim piece = "" ↔
      ∀ c ∈ piece.toList, Text.isBlank c = true := by
    rw [← Text.trimBlanks_eq_nil_iff, Text.trim, String.ofList_eq_empty_iff]
  rw [partsOf, List.filter_eq_nil_iff, NamesNobody, ← Text.forall_mem_cut_iff]
  simp [empty]

/-- The allow-list under an environment is the one of its variable, if that is set. -/
theorem allowList_overridden {s : Settings} {env : Environment}
    (readable : (s.overridden env).2 = none) : (s.overridden env).1.proxy.allowList =
      match Variable.proxyAllowList.value? env with
      | none => s.proxy.allowList
      | some raw => partsOf raw := by
  rw [overridden_of_readable ((overridden_snd_eq_none_iff env s).mp readable)]
  have under := get_under env Variable.all s .proxyAllowList
  rw [if_pos (Variable.mem_all _), Variable.under] at under
  refine Eq.trans under ?_
  cases Variable.proxyAllowList.value? env <;> rfl

/-- The variable has the value that is set, unless that is an empty text. -/
theorem value?_eq_some_iff {env : Environment} {v : Variable} {raw : String} :
    v.value? env = some raw ↔ env v.name = some raw ∧ raw ≠ "" := by
  simp [Variable.value?, Option.filter_eq_some_iff]

/-- A list in the environment that is not an empty text takes the place of the other. -/
theorem allowList_of_set {s : Settings} {env : Environment}
    (readable : (s.overridden env).2 = none) {raw : String}
    (set : env "PROXY_IP_WHITELIST" = some raw) (some : raw ≠ "") :
    (s.overridden env).1.proxy.allowList = partsOf raw := by
  have value : Variable.proxyAllowList.value? env = .some raw :=
    value?_eq_some_iff.mpr ⟨set, some⟩
  rw [allowList_overridden readable, value]

/-- Without a list in the environment, or with an empty text there, the allow-list stays. -/
theorem allowList_of_unset {s : Settings} {env : Environment}
    (readable : (s.overridden env).2 = none)
    (unset : ∀ raw, env "PROXY_IP_WHITELIST" = some raw → raw = "") :
    (s.overridden env).1.proxy.allowList = s.proxy.allowList := by
  have value : Variable.proxyAllowList.value? env = none := by
    cases value : Variable.proxyAllowList.value? env with
    | none => rfl
    | some raw =>
      obtain ⟨set, some⟩ := value?_eq_some_iff.mp value
      exact absurd (unset raw set) some
  rw [allowList_overridden readable, value]

end Settings

namespace Gate.AllowList

/-- A list that restricts and is small enough to be held leaves some host out. -/
theorem exists_host_not_admitted {l : AllowList} (restricting : l.restricting = true)
    (small : l.size < 2 ^ 64) : ∃ host : Socks.Host, l.admits host.render = false := by
  obtain ⟨host, missing⟩ := Socks.Host.exists_render_notMem small
  exact ⟨host, by simp [admits, restricting, missing]⟩

/-- A list that is not made of nothing restricts, to what it is made of. -/
theorem admits_ofList_iff {ips : List String} (some : ips ≠ []) (ip : String) :
    (ofList ips).admits ip = true ↔ ip ∈ ips := by
  have restricting : (ofList ips).restricting = true := by simpa [ofList] using some
  simp [admits, restricting, mem_members_ofList]

end Gate.AllowList

namespace Session.Server

open Settings Gate Pipeline

variable {σ : Type}

/-- What becomes of an allow-list under an environment. -/
structure Restriction (s : Settings) (env : Environment) (l : AllowList) : Prop where
  /-- The server is restricted unless the environment has a list that is not an empty text and
  names nobody. -/
  restricting_iff : l.restricting = true ↔
    ¬ ∃ raw, env "PROXY_IP_WHITELIST" = some raw ∧ raw ≠ "" ∧ NamesNobody raw
  /-- Without a list in the environment, or with an empty text there, the list of the settings
  holds. -/
  kept : (∀ raw, env "PROXY_IP_WHITELIST" = some raw → raw = "") →
    ∀ ip, l.admits ip = true ↔ ip ∈ s.proxy.allowList
  /-- A list in the environment that names somebody takes its place. -/
  replaced : ∀ raw, env "PROXY_IP_WHITELIST" = some raw → ¬ NamesNobody raw →
    ∀ ip, l.admits ip = true ↔ ip ∈ partsOf raw
  /-- A restricted server refuses some host, whatever the list can hold. -/
  refuses : l.restricting = true → l.size < 2 ^ 64 →
    ∃ host : Socks.Host, l.admits host.render = false
  /-- One that is not restricted refuses nobody. -/
  opened : l.restricting = false → ∀ ip, l.admits ip = true

/-- A server whose settings have an allow-list is restricted under every environment that can be
read, but for a list there that names nobody and is not empty. -/
theorem restriction_start {s : Settings} {env : Environment}
    (configured : s.proxy.allowList ≠ []) (readable : (s.overridden env).2 = none)
    (patience : Clock.Span) (pipeline : State σ) :
    Restriction s env (start (s.overridden env).1.proxy (s.overridden env).1.rate patience
      pipeline).rules.allowed := by
  change Restriction s env (.ofList (s.overridden env).1.proxy.allowList)
  refine ⟨?_, ?_, ?_, AllowList.exists_host_not_admitted, ?_⟩
  · have restricting : (AllowList.ofList (s.overridden env).1.proxy.allowList).restricting = true ↔
        (s.overridden env).1.proxy.allowList ≠ [] := by
      simp [AllowList.ofList]
    rw [restricting]
    constructor
    · rintro some ⟨raw, set, named, empty⟩
      rw [allowList_of_set readable set named] at some
      exact some ((partsOf_eq_nil_iff raw).mpr empty)
    · intro named
      by_cases unset : ∀ raw, env "PROXY_IP_WHITELIST" = some raw → raw = ""
      · rw [allowList_of_unset readable unset]
        exact configured
      · simp only [not_forall] at unset
        obtain ⟨raw, set, nonempty⟩ := unset
        rw [allowList_of_set readable set nonempty]
        intro empty
        exact named ⟨raw, set, nonempty, (partsOf_eq_nil_iff raw).mp empty⟩
  · intro unset ip
    rw [allowList_of_unset readable unset]
    exact AllowList.admits_ofList_iff configured ip
  · intro raw set somebody ip
    have nonempty : raw ≠ "" := by
      rintro rfl
      exact somebody (by simp [NamesNobody])
    rw [allowList_of_set readable set nonempty]
    exact AllowList.admits_ofList_iff (mt (partsOf_eq_nil_iff raw).mp somebody) ip
  · intro restricting ip
    simp [AllowList.admits, restricting]

private def restricted : Settings := { proxy.allowList := ["10.0.0.1"] }

private def only (list : String) : Environment :=
  fun name => if name = "PROXY_IP_WHITELIST" then some list else none

private def idle : State Store.Memory where
  input := { capacity := 1 }
  workers := []
  publisher := .start { capacity := 1 } 1 1 {}

private def restart (list : String) : Server Store.Memory :=
  start (restricted.overridden (only list)).1.proxy (restricted.overridden (only list)).1.rate
    (.ofSeconds 10) idle

/-- A list with an empty part and blanks in it takes the place of the one that is configured. -/
theorem restriction_start_blanks : restricted.proxy.allowList ≠ [] ∧
    (restricted.overridden (only " , 10.0.0.2,")).2 = none ∧
    partsOf " , 10.0.0.2," = ["10.0.0.2"] ∧
    Restriction restricted (only " , 10.0.0.2,") (restart " , 10.0.0.2,").rules.allowed :=
  ⟨by decide, by decide +kernel, by decide +kernel,
    restriction_start (by decide) (by decide +kernel) (.ofSeconds 10) idle⟩

/-- A comma names nobody, and opens to everybody a server that an empty text leaves restricted. -/
theorem restricted_opened_by_comma : restricted.proxy.allowList ≠ [] ∧
    (restricted.overridden (only "")).2 = none ∧ (restart "").rules.allowed.restricting = true ∧
    NamesNobody "," ∧
    (restricted.overridden (only ",")).2 = none ∧ (restart ",").rules.allowed.restricting = false ∧
    ∀ ip, (restart ",").rules.allowed.admits ip = true := by
  have opened : (restart ",").rules.allowed.restricting = false := by decide +kernel
  refine ⟨by decide, by decide +kernel, by decide +kernel, by simp [NamesNobody],
    by decide +kernel, opened, ?_⟩
  intro ip
  simp [AllowList.admits, opened]

end Session.Server

end ProxyMeter
