import Mathlib.Algebra.BigOperators.Ring.Finset
import ProxyMeter.Proofs.Session.Relays
import ProxyMeter.Proofs.Store.Memory

/-!
# What is reported is what was relayed

A relay goes a long way to a report: its event is delivered, taken, made a record of, gathered into
a batch and stored, and the store adds up its rows. When all sessions are over, the pipeline has
finished and nothing was turned away, dropped or lost on the way, the rows are those of the relays,
each once, and the reports are sums over the relays.
-/

namespace ProxyMeter

open Calendar Pipeline Socks Store Traffic

/-- When a pipeline has finished and has neither dropped nor lost a record, the events that were
taken are stored. -/
theorem Pipeline.State.Conserved.taken_eq {σ : Type} {s : State σ} (places : s.Conserved)
    (coherent : s.Coherent) (finished : s.finished = true) (dropped : s.dropped = [])
    (lost : s.lost = []) :
    (s.taken : Multiset Event) = (s.stored.flatten.map Record.event : List Event) := by
  obtain ⟨input, held, inHand, stock⟩ := coherent.rest finished
  have records : (s.normalised : Multiset Record) = (s.stored.flatten : List Record) := by
    rw [places.records, inHand, stock, dropped, lost]
    simp
  rw [places.events, input, held, ← Multiset.map_coe, records, Multiset.map_coe]
  simp

namespace Session

/-- What relays add up to. -/
def totals (relays : List Relay) : Summary where
  count := relays.length
  bytesIn := ((relays.map (·.bytesIn.toNat)).sum : Nat)
  bytesOut := ((relays.map (·.bytesOut.toNat)).sum : Nat)
  averageLatency :=
    if relays.length = 0 then 0
    else Float.ofInt ((relays.map (·.latencyMs)).sum : Nat) / Float.ofNat relays.length

/-- Relays whose counts and latencies add up to signed words. -/
structure Moderate (relays : List Relay) : Prop where
  bytesIn : (relays.map (·.bytesIn.toNat)).sum < 2 ^ 63
  bytesOut : (relays.map (·.bytesOut.toNat)).sum < 2 ^ 63
  /-- The store adds up the milliseconds of the dials, too, to give their mean. -/
  latencies : (relays.map (·.latencyMs)).sum < 2 ^ 63

/-- A count that fits a signed word is not changed by being put into one. -/
theorem toInt_toInt64 {n : UInt64} (small : n.toNat < 2 ^ 63) : n.toInt64.toInt = n.toNat := by
  apply BitVec.toInt_eq_toNat_of_lt
  show 2 * n.toNat < 2 ^ 64
  omega

/-- Words whose sum fits are added up without wrapping. -/
theorem toNat_sum {ns : List UInt64} (small : (ns.map UInt64.toNat).sum < 2 ^ 63) :
    ns.sum.toNat = (ns.map UInt64.toNat).sum := by
  have wrapped : ns.sum = .ofNat (ns.map UInt64.toNat).sum := by
    clear small
    induction ns with
    | nil => rfl
    | cons n ns ih =>
      rw [List.sum_cons, List.map_cons, List.sum_cons, UInt64.ofNat_add, UInt64.ofNat_toNat, ih]
  rw [wrapped, UInt64.toNat_ofNat']
  omega

private theorem within_of_lt {ns : List Nat} (h : ns.sum < 2 ^ 63) :
    Within (ns.map fun n : Nat => (n : Int)) := by
  constructor
  · intro x member
    obtain ⟨n, -, rfl⟩ := List.mem_map.mp member
    exact Int.natCast_nonneg n
  · rw [← Nat.cast_list_sum, greatestWord, Nat.pow_eq]
    omega

namespace Moderate

variable {relays : List Relay}

theorem sublist {fewer : List Relay} (h : Moderate relays) (less : fewer.Sublist relays) :
    Moderate fewer := by
  constructor
  · exact ((less.map _).sum_le_sum fun _ _ => Nat.zero_le _).trans_lt h.bytesIn
  · exact ((less.map _).sum_le_sum fun _ _ => Nat.zero_le _).trans_lt h.bytesOut
  · exact ((less.map _).sum_le_sum fun _ _ => Nat.zero_le _).trans_lt h.latencies

/-- Counts of relays that add up to a signed word are not changed by being put into one. -/
theorem map_toInt64 {count : Relay → UInt64}
    (small : (relays.map fun r => (count r).toNat).sum < 2 ^ 63) :
    (relays.map fun r => (count r).toInt64.toInt) =
      (relays.map fun r => (count r).toNat).map fun n : Nat => (n : Int) := by
  rw [List.map_map]
  apply List.map_congr_left
  intro r member
  have least : (count r).toNat ≤ (relays.map fun r => (count r).toNat).sum :=
    List.le_sum_of_mem (List.mem_map_of_mem member)
  exact toInt_toInt64 (least.trans_lt small)

/-- The events of relays say how many bytes came in. -/
theorem map_bytesIn (h : Moderate relays) : (relays.map Relay.event).map (·.bytesIn) =
    (relays.map (·.bytesIn.toNat)).map fun n : Nat => (n : Int) := by
  rw [List.map_map]
  exact map_toInt64 h.bytesIn

/-- The events of relays say how many bytes went out. -/
theorem map_bytesOut (h : Moderate relays) : (relays.map Relay.event).map (·.bytesOut) =
    (relays.map (·.bytesOut.toNat)).map fun n : Nat => (n : Int) := by
  rw [List.map_map]
  exact map_toInt64 h.bytesOut

/-- The events of relays say how long the dials took. -/
theorem map_latencyMs (relays : List Relay) : (relays.map Relay.event).map (·.latencyMs) =
    (relays.map (·.latencyMs)).map fun n : Nat => (n : Int) := by
  rw [List.map_map, List.map_map]
  rfl

/-- The sums over the events of relays are those over the relays. -/
theorem summaryOf_eq (h : Moderate relays) :
    summaryOf (relays.map Relay.event) = totals relays := by
  rw [summaryOf, h.map_bytesIn, h.map_bytesOut, map_latencyMs, ← Nat.cast_list_sum,
    ← Nat.cast_list_sum, ← Nat.cast_list_sum, List.length_map, totals]

/-- The events of relays can be added up. -/
theorem addable (h : Moderate relays) : Addable (relays.map Relay.event) where
  bytesIn := h.map_bytesIn ▸ within_of_lt h.bytesIn
  bytesOut := h.map_bytesOut ▸ within_of_lt h.bytesOut
  latencies := map_latencyMs relays ▸ within_of_lt h.latencies

end Moderate

namespace Server

variable {σ : Type}

/-- Nobody but the sessions calls the collector, and no event is turned away, dropped or lost. -/
structure Undisturbed (actions : List Action) (s : Server σ) : Prop where
  own : outside actions = []
  turned : s.pipeline.turned = []
  dropped : s.pipeline.dropped = []
  lost : s.pipeline.lost = []

/-- What the store reports and what the metrics say, against the relays. The counters wrap. -/
structure Reports (range : TimeRange) (limit : Nat) (relays : List Relay) (s : Server Memory) :
    Prop where
  summary : Repository.summary range s.pipeline.publisher.store = .ok (totals relays)
  connections : .ofNat (totals relays).count = s.allMetrics.counter .closedConnections -
    (RejectReason.afterAdmission.map s.allMetrics.rejected).sum
  bytesIn : (totals relays).bytesIn = (s.allMetrics.counter .bytesIn).toNat
  bytesOut : (totals relays).bytesOut = (s.allMetrics.counter .bytesOut).toNat
  /-- Each client that has relayed has one entry, with what its relays add up to. -/
  clients : ∃ groups, Repository.top .sourceIp limit s.pipeline.publisher.store = .ok groups ∧
    (groups.map Ranked.key).Nodup ∧
    (∀ ip, ip ∈ groups.map Ranked.key ↔ ip ∈ relays.map Relay.client) ∧
    ∀ g ∈ groups, g.summary = totals (relays.filter (·.client == g.key))

variable {settings : PipelineSettings} {pipeline : State Memory} {proxy : ProxySettings}
  {rate : RateSettings} {patience : Clock.Span} {s : Server Memory} {actions : List Action}

/-- When all is over, the store has one row for each relay. -/
theorem events_perm (start : State.start? settings ({} : Memory) = some pipeline)
    (run : (Server.start proxy rate patience pipeline).run actions = some s)
    (undisturbed : s.Undisturbed actions) (rest : s.inProgress = 0)
    (finished : s.pipeline.finished = true) :
    (events s.pipeline.publisher.store.rows).Perm
      (((Server.start proxy rate patience pipeline).relays actions).map Relay.event) := by
  have kept : s.pipeline.Coherent ∧ s.pipeline.Conserved ∧
      saveAll {} s.pipeline.stored = .ok s.pipeline.publisher.store := by
    refine run_pipeline (P := fun p => p.Coherent ∧ p.Conserved ∧
      saveAll {} p.stored = .ok p.publisher.store) ?_ ?_ run
    · exact ⟨State.coherent_start start, State.conserved_start start, State.saveAll_start start⟩
    · rintro a p p' ⟨coherent, places, saved⟩ change
      exact ⟨coherent.change change, places.change coherent change, change.saveAll_eq saved⟩
  obtain ⟨coherent, places, saved⟩ := kept
  have books := run_books rfl (books_start start proxy rate patience) run
  have relayed := delivered_perm rfl run rest
  -- The collector was called by the sessions alone and turned none of them away.
  have calls : (s.pipeline.taken : Multiset Event) =
      delivered ((Server.start proxy rate patience pipeline).verdicts actions) := by
    have calls := books.calls
    rw [Server.calls, undisturbed.turned, undisturbed.own] at calls
    simpa using calls
  have rows : events s.pipeline.publisher.store.rows =
      s.pipeline.stored.flatten.map Record.event := by
    have rows := Memory.rows_saveAll saved
    show s.pipeline.publisher.store.rows.map (Record.event ∘ Row.record) = _
    rw [← List.map_map, rows]
    rfl
  rw [← Multiset.coe_eq_coe, rows, ← Multiset.coe_eq_coe.mpr relayed, ← calls]
  exact (places.taken_eq coherent finished undisturbed.dropped undisturbed.lost).symm

/-- What was delivered adds up to the counts of the relays. -/
theorem toNat_sum_delivered {verdicts : List (Nat × Verdict)} {relays : List Relay}
    (given : (delivered verdicts).Perm (relays.map Relay.event)) {bytes : Event → UInt64}
    {count : Relay → UInt64} (told : ∀ r : Relay, bytes r.event = count r)
    (small : (relays.map fun r => (count r).toNat).sum < 2 ^ 63) :
    ((delivered verdicts).map bytes).sum.toNat = (relays.map fun r => (count r).toNat).sum := by
  have counts : bytes ∘ Relay.event = count := funext told
  have summands : (relays.map count).map UInt64.toNat = relays.map fun r => (count r).toNat :=
    List.map_map
  rw [(given.map bytes).sum_eq, List.map_map, counts, toNat_sum (summands ▸ small), summands]

private def guest : Endpoint := ⟨.unspecified, 4000⟩

private def neighbour : Endpoint := ⟨.v4 #v[10, 0, 0, 1], 4001⟩

private def asking : Wire :=
  { pieces := [greeting [0], request 0x01 0 (.address ⟨.unspecified, 80⟩)] }

private def pairwise : PipelineSettings :=
  { workers := 1, inputCapacity := 2, outputCapacity := 2, batchSize := 2 }

private def roomy (pipeline : State Memory) : Server Memory :=
  Server.start { maxConnections := 3 } {} (.ofSeconds 10) pipeline

-- The steps of a session that relays.
private def relaying (n : Nat) (peer : Endpoint) (bytesIn bytesOut : UInt64) : List Action :=
  [.arrive peer, .count n, .enter n, .activate n, .limit n 5,
    .converse n asking (fun _ => .ok ⟨none, none⟩) ⟨5, 0⟩ 3, .finish n bytesIn bytesOut none,
    .countIn n, .countOut n, .settle n, .deactivate n, .close n, .leave n]

-- The steps of a session that says nothing.
private def silent (n : Nat) (peer : Endpoint) : List Action :=
  [.arrive peer, .count n, .enter n, .activate n, .limit n 6,
    .converse n { pieces := [] } (fun _ => .error .refused) ⟨6, 0⟩ 0, .settle n, .deactivate n,
    .close n, .leave n]

private def processing : List Pipeline.Action :=
  [.listen 0, .receive 0, .normalise 0 ⟨7, 0⟩ 0, .hand 0, .publisher .take, .listen 0, .receive 0,
    .normalise 0 ⟨8, 0⟩ 0, .hand 0, .publisher .take, .publisher (.written 1), .cancel, .close,
    .listen 0, .leave 0, .publisher .finish]

private def twoClients : List Action :=
  relaying 0 guest 40 2 ++ silent 1 guest ++ relaying 2 neighbour 5 7 ++
    processing.map .pipeline

end Server
end Session
end ProxyMeter
