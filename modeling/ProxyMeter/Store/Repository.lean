import ProxyMeter.Calendar.TimeRange
import ProxyMeter.Store.Summary

/-!
# Repositories

What every store of records can do: take one record, or a list of records, all or none, and answer
four queries.
-/

namespace ProxyMeter.Store

open Calendar Traffic

/-- A store of records: `TrafficRepository`. -/
class Repository (σ : Type) where
  /-- Takes one record: `save_one`. -/
  saveOne : Record → σ → Except Fault σ
  /-- Takes records, all of them or none: `save_batch`. -/
  save : List Record → σ → Except Fault σ
  /-- The largest groups: `top_domains` and `top_source_ips`. -/
  top : Grouping → Nat → σ → Except Fault (List Ranked)
  /-- The summary of the rows in a range: `traffic_stats`. -/
  summary : TimeRange → σ → Except Fault Summary
  /-- Some of the rows in a range, the latest first: `traffic_by_time_range`. -/
  page : TimeRange → (limit offset : Nat) → σ → Except Fault (List Row)

/-- A call that saves records. -/
inductive SaveCall where
  | one (r : Record)
  | batch (records : List Record)
  deriving DecidableEq, Repr

namespace SaveCall

/-- The records that are to be saved. -/
def records : SaveCall → List Record
  | one r => [r]
  | batch records => records

/-- What a call gives. -/
def perform {σ : Type} [Repository σ] : SaveCall → σ → Except Fault σ
  | one r, s => Repository.saveOne r s
  | batch records, s => Repository.save records s

end SaveCall

/-- A store that answers everything with the same fault. -/
structure Refusing where
  fault : Fault

instance : Repository Refusing where
  saveOne _ s := .error s.fault
  save _ s := .error s.fault
  top _ _ s := .error s.fault
  summary _ s := .error s.fault
  page _ _ _ s := .error s.fault

end ProxyMeter.Store
