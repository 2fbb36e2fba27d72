import ProxyMeter.Session.Failure

/-!
# Metrics

Counters of sixty-four bits that wrap, a gauge with a sign, counters per label that begin to exist
when they are counted or read, and histograms. Every update touches one of them.
-/

namespace ProxyMeter.Metrics

open Session

/-- The stage of the pipeline that dropped an event. -/
inductive DropStage where
  | collector
  | normalizer
  deriving DecidableEq, Repr

/-- The name of a stage as it stands in the metrics. -/
def DropStage.label : DropStage → String
  | .collector => "Collector"
  | .normalizer => "Normalizer"

/-- The greatest finite number: the bound of the last bucket of every histogram. -/
def greatest : Float := .ofBits 0x7FEFFFFFFFFFFFFF

/-- Observations counted by the least bound that is not below them. -/
structure Histogram where
  /-- Each bound with the number of observations it is the least one for. -/
  buckets : List (Float × Nat)
  sum : Float := 0
  count : Nat := 0

namespace Histogram

/-- A histogram without observations. After the bounds that are asked for it has a last one. -/
def ofBounds (bounds : List Float) : Histogram :=
  { buckets := (bounds ++ [greatest]).map (·, 0) }

/-- Counts an observation at the first bound that is not below it. An infinite one, or one that is
no number, may be counted at none. -/
def place (x : Float) : List (Float × Nat) → List (Float × Nat)
  | [] => []
  | (bound, n) :: rest => if x ≤ bound then (bound, n + 1) :: rest else (bound, n) :: place x rest

/-- One more observation: it goes into the sum and the count, whether a bucket takes it or not. -/
def observe (h : Histogram) (x : Float) : Histogram where
  buckets := place x h.buckets
  sum := h.sum + x
  count := h.count + 1

end Histogram

/-- The counters without a label. -/
inductive Counter where
  | totalConnections
  | closedConnections
  | bytesIn
  | bytesOut
  | eventsCollected
  | eventsProcessed
  | eventsPublished
  | databaseErrors
  deriving DecidableEq, Repr

/-- The histograms. -/
inductive Timing where
  | connectionLatency
  | processingLatency
  | databaseQuery
  deriving DecidableEq, Repr

/-- Bounds for the latency of dials and queries, in milliseconds (`LATENCY_BUCKETS`). -/
def latencyBounds : List Float := [1, 5, 10, 25, 50, 100, 250, 500, 1000]

/-- Bounds for the time of normalising an event, in milliseconds (`PROCESSING_BUCKETS`). -/
def processingBounds : List Float := [1, 5, 10, 25, 50, 100, 250, 500]

end Metrics

/-- The state of all metrics. -/
structure Metrics where
  totalConnections : UInt64 := 0
  closedConnections : UInt64 := 0
  bytesIn : UInt64 := 0
  bytesOut : UInt64 := 0
  eventsCollected : UInt64 := 0
  eventsProcessed : UInt64 := 0
  eventsPublished : UInt64 := 0
  databaseErrors : UInt64 := 0
  activeConnections : Int64 := 0
  /-- Rejections by reason, in the order in which the reasons came up. -/
  rejections : List (Session.RejectReason × UInt64) := []
  /-- Dropped events by stage, in the order in which the stages came up. -/
  drops : List (Metrics.DropStage × UInt64) := []
  connectionLatency : Metrics.Histogram := .ofBounds Metrics.latencyBounds
  processingLatency : Metrics.Histogram := .ofBounds Metrics.processingBounds
  databaseQuery : Metrics.Histogram := .ofBounds Metrics.latencyBounds

namespace Metrics

/-- The value of a counter. -/
def counter (m : Metrics) : Counter → UInt64
  | .totalConnections => m.totalConnections
  | .closedConnections => m.closedConnections
  | .bytesIn => m.bytesIn
  | .bytesOut => m.bytesOut
  | .eventsCollected => m.eventsCollected
  | .eventsProcessed => m.eventsProcessed
  | .eventsPublished => m.eventsPublished
  | .databaseErrors => m.databaseErrors

/-- The metrics with another value for one counter. -/
def setCounter (m : Metrics) (value : UInt64) : Counter → Metrics
  | .totalConnections => { m with totalConnections := value }
  | .closedConnections => { m with closedConnections := value }
  | .bytesIn => { m with bytesIn := value }
  | .bytesOut => { m with bytesOut := value }
  | .eventsCollected => { m with eventsCollected := value }
  | .eventsProcessed => { m with eventsProcessed := value }
  | .eventsPublished => { m with eventsPublished := value }
  | .databaseErrors => { m with databaseErrors := value }

/-- A histogram. -/
def timing (m : Metrics) : Timing → Histogram
  | .connectionLatency => m.connectionLatency
  | .processingLatency => m.processingLatency
  | .databaseQuery => m.databaseQuery

/-- Adds to a counter, and gives its value before. -/
def increase (m : Metrics) (c : Counter) (amount : UInt64) : UInt64 × Metrics :=
  (m.counter c, m.setCounter (m.counter c + amount) c)

/-- Adds to a counter. -/
def add (m : Metrics) (c : Counter) (amount : Nat) : Metrics := (m.increase c (.ofNat amount)).2

/-- Adds one to a counter. -/
def tick (m : Metrics) (c : Counter) : Metrics := m.add c 1

/-- Changes the number of active connections, and gives it before. -/
def shiftActive (m : Metrics) (amount : Int64) : Int64 × Metrics :=
  (m.activeConnections, { m with activeConnections := m.activeConnections + amount })

/-- A labelled series with an amount added; it is created if it is not there. -/
def bump {κ : Type} [DecidableEq κ] (key : κ) (amount : UInt64) :
    List (κ × UInt64) → List (κ × UInt64)
  | [] => [(key, amount)]
  | (k, n) :: rest => if k = key then (k, n + amount) :: rest else (k, n) :: bump key amount rest

/-- Counts a rejection (`Metrics.record_rejected`). -/
def recordRejected (m : Metrics) (reason : Session.RejectReason) : Metrics :=
  { m with rejections := bump reason 1 m.rejections }

/-- Counts a dropped event (`Metrics.record_dropped`). -/
def recordDropped (m : Metrics) (stage : DropStage) : Metrics :=
  { m with drops := bump stage 1 m.drops }

/-- The number of rejections for a reason. -/
def rejected (m : Metrics) (reason : Session.RejectReason) : UInt64 :=
  (m.rejections.lookup reason).getD 0

/-- The number of events that a stage dropped. -/
def dropped (m : Metrics) (stage : DropStage) : UInt64 := (m.drops.lookup stage).getD 0

/-- Reads the rejections for a reason; the series exists from then on (`Metrics.rejected`). -/
def readRejected (m : Metrics) (reason : Session.RejectReason) : UInt64 × Metrics :=
  (m.rejected reason, { m with rejections := bump reason 0 m.rejections })

/-- Reads the drops of a stage; the series exists from then on (`Metrics.dropped`). -/
def readDropped (m : Metrics) (stage : DropStage) : UInt64 × Metrics :=
  (m.dropped stage, { m with drops := bump stage 0 m.drops })

/-- One more observation of a histogram. -/
def observe (m : Metrics) (x : Float) : Timing → Metrics
  | .connectionLatency => { m with connectionLatency := m.connectionLatency.observe x }
  | .processingLatency => { m with processingLatency := m.processingLatency.observe x }
  | .databaseQuery => { m with databaseQuery := m.databaseQuery.observe x }

/-- What can be done to metrics. -/
inductive Update where
  | increase (c : Counter) (amount : UInt64)
  | shift (amount : Int64)
  | reject (reason : Session.RejectReason)
  | readRejected (reason : Session.RejectReason)
  | drop (stage : DropStage)
  | readDropped (stage : DropStage)
  | observe (t : Timing) (x : Float)

/-- The metrics after an update. -/
def updated (m : Metrics) : Update → Metrics
  | .increase c amount => (m.increase c amount).2
  | .shift amount => (m.shiftActive amount).2
  | .reject reason => m.recordRejected reason
  | .readRejected reason => (m.readRejected reason).2
  | .drop stage => m.recordDropped stage
  | .readDropped stage => (m.readDropped stage).2
  | .observe t x => m.observe x t

/-- Metrics that were new before some updates. -/
def afterUpdates (updates : List Update) : Metrics := updates.foldl updated {}

end Metrics

end ProxyMeter
