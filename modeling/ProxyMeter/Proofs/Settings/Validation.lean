import ProxyMeter.Settings.Validation

/-!
# What valid settings are

The faults of settings are looked for one after the other. Settings without a fault are those that
keep all the rules, whatever their order.
-/

namespace ProxyMeter.Settings

/-- The rules for settings. -/
structure IsValid (s : Settings) : Prop where
  connections : s.proxy.maxConnections ≠ 0
  login : s.proxy.login.enabled = true → s.proxy.login.username ≠ ""
  workers : s.pipeline.workers ≠ 0
  input : s.pipeline.inputCapacity ≠ 0
  queue : s.pipeline.outputCapacity ≠ 0
  batch : s.pipeline.batchSize ≠ 0
  interval : s.pipeline.flushMillis ≠ 0
  rate : s.rate.enabled = true → s.rate.perSecond ≠ 0
  format : s.log.format = "text" ∨ s.log.format = "json"

/-- Settings have no fault exactly if they keep all the rules. -/
theorem fault?_eq_none_iff (s : Settings) : s.fault? = none ↔ s.IsValid := by
  have present : s.fault? = none ↔ ∀ f ∈ s.faults, f.2 = false := by
    simp [fault?, List.find?_eq_none]
  rw [present]
  simp only [faults, List.forall_mem_cons, List.not_mem_nil, false_implies, implies_true, and_true,
    Bool.and_eq_false_imp, Bool.or_eq_false_iff, beq_eq_false_iff_ne, bne_eq_false_iff_eq,
    bne_iff_ne]
  constructor
  · rintro ⟨connections, login, workers, ⟨input, queue⟩, batch, interval, rate, format⟩
    exact ⟨connections, login, workers, input, queue, batch, interval, rate,
      Classical.or_iff_not_imp_left.mpr format⟩
  · intro valid
    exact ⟨valid.connections, valid.login, valid.workers, ⟨valid.input, valid.queue⟩, valid.batch,
      valid.interval, valid.rate, Classical.or_iff_not_imp_left.mp valid.format⟩

end ProxyMeter.Settings
