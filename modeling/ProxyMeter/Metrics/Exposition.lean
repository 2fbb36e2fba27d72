import ProxyMeter.Decimal.Notation
import ProxyMeter.Metrics.Basic

/-!
# The text form of the metrics

Each family has a line of help, a line with its kind, and its samples: a gauge under its own name, a
counter under its name with `_total`, a histogram as sum, count and the number of observations up to
each bound. Families stand in a fixed order, and labelled series in the order of their lines.
-/

namespace ProxyMeter.Metrics

/-- What a family holds. -/
inductive Source where
  | active
  | counter (c : Counter)
  | rejections
  | drops
  | timing (t : Timing)
  deriving DecidableEq, Repr

/-- A family: its name, its help without the full stop, and what it holds. -/
structure Family where
  name : String
  help : String
  source : Source
  deriving Repr

/-- All families, in the order in which they are written (`Metrics.new`). -/
def families : List Family :=
  [⟨"socks5_proxy_active_connections", "Current number of active proxy connections", .active⟩,
    ⟨"socks5_proxy_connections", "Total number of proxy connections since start",
      .counter .totalConnections⟩,
    ⟨"socks5_proxy_closed_connections", "Total number of closed proxy connections",
      .counter .closedConnections⟩,
    ⟨"socks5_proxy_rejected_connections", "Proxy connections rejected before relaying",
      .rejections⟩,
    ⟨"socks5_proxy_bytes_in", "Total bytes received by proxy", .counter .bytesIn⟩,
    ⟨"socks5_proxy_bytes_out", "Total bytes sent by proxy", .counter .bytesOut⟩,
    ⟨"socks5_proxy_latency_ms", "Distribution of connection latencies in milliseconds",
      .timing .connectionLatency⟩,
    ⟨"pipeline_events_collected", "Total events collected by the pipeline",
      .counter .eventsCollected⟩,
    ⟨"pipeline_events_processed", "Total events processed by the normalizer",
      .counter .eventsProcessed⟩,
    ⟨"pipeline_events_published", "Total events published to the database",
      .counter .eventsPublished⟩,
    ⟨"pipeline_events_dropped", "Events dropped because a pipeline queue was full", .drops⟩,
    ⟨"pipeline_processing_latency_ms", "Pipeline event processing latency in milliseconds",
      .timing .processingLatency⟩,
    ⟨"db_query_duration_ms", "Database query duration in milliseconds",
      .timing .databaseQuery⟩,
    ⟨"db_errors", "Total database errors", .counter .databaseErrors⟩]

/-- The kind of a family. -/
def Source.kind : Source → String
  | .active => "gauge"
  | .counter _ | .rejections | .drops => "counter"
  | .timing _ => "histogram"

/-- A value: the name it stands under, the key and the text of its label if it has one, and the
value as it is written. -/
structure Sample where
  name : String
  label : Option (String × String) := none
  value : String
  deriving DecidableEq, Repr

/-- The line of a sample. -/
def Sample.line (s : Sample) : String :=
  match s.label with
  | none => s.name ++ " " ++ s.value
  | some (key, text) => s.name ++ "\x7b" ++ key ++ "=\"" ++ text ++ "\"\x7d " ++ s.value

/-- A float among the samples. -/
def sampleText (x : Float) : String :=
  if x.isNaN then "NaN"
  else if x.isInf then if x < 0 then "-inf" else "inf"
  else (Decimal.shortest x).render .samples

/-- The sample of a counter under a label. -/
def seriesSample (name key : String) : String × UInt64 → Sample
  | (text, n) => ⟨name ++ "_total", some (key, text), toString n.toNat⟩

/-- The samples of counters under labels with one key, in the order of their lines. -/
def labelled (name key : String) (series : List (String × UInt64)) : List Sample :=
  (series.map (seriesSample name key)).mergeSort fun a b => a.line ≤ b.line

/-- Running totals of numbers that have names. -/
def runningTotals : Nat → List (String × Nat) → List (String × Nat)
  | _, [] => []
  | before, (text, n) :: rest => (text, before + n) :: runningTotals (before + n) rest

/-- A bound as it is written: the last one as if it were infinite. -/
def boundText (bound : Float) : String := if bound == greatest then "+Inf" else sampleText bound

/-- The observations up to each bound. -/
def Histogram.upTo (h : Histogram) : List (String × Nat) :=
  runningTotals 0 (h.buckets.map fun (bound, n) => (boundText bound, n))

/-- The sample of the observations up to a bound. -/
def bucketSample (name : String) : String × Nat → Sample
  | (bound, n) => ⟨name ++ "_bucket", some ("le", bound), toString n⟩

/-- The samples of a family. -/
def samples (m : Metrics) (f : Family) : List Sample :=
  match f.source with
  | .active => [⟨f.name, none, toString m.activeConnections.toInt⟩]
  | .counter c => [⟨f.name ++ "_total", none, toString (m.counter c).toNat⟩]
  | .rejections => labelled f.name "reason" (m.rejections.map fun (r, n) => (r.label, n))
  | .drops => labelled f.name "stage" (m.drops.map fun (s, n) => (s.label, n))
  | .timing t =>
    let h := m.timing t
    ⟨f.name ++ "_sum", none, sampleText h.sum⟩ :: ⟨f.name ++ "_count", none, toString h.count⟩ ::
      h.upTo.map (bucketSample f.name)

/-- The lines of a family. -/
def Family.lines (m : Metrics) (f : Family) : List String :=
  ("# HELP " ++ f.name ++ " " ++ f.help ++ ".") :: ("# TYPE " ++ f.name ++ " " ++ f.source.kind) ::
    (samples m f).map Sample.line

/-- The text form of all metrics (`Metrics.encode`). -/
def exposition (m : Metrics) : String :=
  String.join ((families.flatMap (·.lines m)).map (· ++ "\n")) ++ "# EOF\n"

end ProxyMeter.Metrics
