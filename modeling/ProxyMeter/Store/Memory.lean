import ProxyMeter.Store.Repository
import ProxyMeter.Store.Table
import ProxyMeter.Store.Totals
import ProxyMeter.Store.Write

/-!
# The store in memory

Rows in the order of their arrival, numbered from one, and the sizes of the lists they came in.
Writing can be switched off.
-/

namespace ProxyMeter.Store

open Calendar Traffic

/-- Rows in memory (`MemoryRepository`). -/
structure Memory where
  rows : List Row := []
  /-- The sizes of the lists of records that were taken. -/
  batches : List Nat := []
  writesOff : Bool := false

namespace Memory

/-- A record becomes the next row (`MemoryRepository.push`). -/
def push (r : Record) (m : Memory) : Memory :=
  { m with rows := m.rows ++ [⟨m.rows.length + 1, r⟩] }

/-- Records become the next rows one by one. -/
def pushAll (records : List Record) (m : Memory) : Memory := records.foldl (fun m r => m.push r) m

/-- Takes records, unless writing is switched off (`MemoryRepository.save_batch`). -/
def saveBatch (records : List Record) : Write Memory Unit := do
  let m ← get
  if m.writesOff then throw .writesOff
  else set { m.pushAll records with batches := m.batches ++ [records.length] }

/-- Takes one record (`MemoryRepository.save_one`). -/
def saveOne (r : Record) : Write Memory Unit := saveBatch [r]

/-- Takes records unless writing is switched off. -/
def save (records : List Record) (m : Memory) : Except Fault Memory := (saveBatch records).outcome m

/-- The summary of rows, unless a sum does not fit (`MemoryRepository.traffic_stats`). -/
def summarise (rows : List Row) : Except Fault Summary :=
  match sumWithin? (bytesIn rows), sumWithin? (bytesOut rows), sumWithin? (latencies rows) with
  | some into, some out, some latency => .ok ⟨rows.length, into, out, mean latency rows.length⟩
  | _, _, _ => .error .brokenOff

/-- The largest groups (`MemoryRepository.top_domains` and `top_source_ips`). The entries of a table
come in some order before they are sorted. -/
def topIn (order : List (String × Totals) → List (String × Totals)) (g : Grouping) (limit : Nat)
    (m : Memory) : Except Fault (List Ranked) :=
  match Totals.table? g.key (g.members m.rows) with
  | some table => .ok <| (((order table).mergeSort Totals.atOrBefore).take limit).map
      fun (key, totals) => ⟨key, totals.summary⟩
  | none => .error .brokenOff

/-- The largest groups, of a table whose entries come in the order in which its keys came up. -/
def top (g : Grouping) (limit : Nat) (m : Memory) : Except Fault (List Ranked) := topIn id g limit m

/-- The rows in a range (`MemoryRepository.in_range`). -/
def within (range : TimeRange) (m : Memory) : List Row :=
  m.rows.filter fun r => range.holds r.record.event.timestamp

/-- Rows with the latest first; rows of one instant stay in their order. This is the order of
`MemoryRepository.traffic_by_time_range`. -/
def latestFirst (rows : List Row) : List Row :=
  rows.mergeSort fun a b => b.record.event.timestamp.atOrBefore a.record.event.timestamp

instance : Repository Memory where
  saveOne r m := (saveOne r).outcome m
  save := save
  top := top
  summary range m := summarise (m.within range)
  page range limit offset m := .ok (((latestFirst (m.within range)).drop offset).take limit)

/-- What is done with a store in memory. -/
inductive Action where
  | saveOne (r : Record)
  | saveBatch (records : List Record)
  /-- Writing is switched off or on (`MemoryRepository.set_fail_writes`). -/
  | switch (off : Bool)

/-- A store after an action, also after one that failed. -/
def after (m : Memory) : Action → Memory
  | .saveOne r => ((saveOne r).runOn m).2
  | .saveBatch records => ((saveBatch records).runOn m).2
  | .switch off => { m with writesOff := off }

end Memory

end ProxyMeter.Store
