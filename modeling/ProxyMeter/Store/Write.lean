import ProxyMeter.Store.Fault

/-!
# Writes to a store

A write changes a store and may fail. What it has changed by then stays changed, unless the write
itself takes it back.
-/

namespace ProxyMeter.Store

/-- A change of a store that may fail. -/
abbrev Write (σ : Type) := ExceptT Fault (StateM σ)

namespace Write

variable {σ α : Type}

/-- Runs a write and gives its outcome and the store after it. -/
def runOn (x : Write σ α) (s : σ) : Except Fault α × σ :=
  StateT.run (ExceptT.run x) s

/-- The store after a write that succeeded, or the fault of one that did not. -/
def outcome (x : Write σ Unit) (s : σ) : Except Fault σ :=
  match x.runOn s with
  | (.ok (), s') => .ok s'
  | (.error fault, _) => .error fault

end Write

end ProxyMeter.Store
