import ProxyMeter.Log.Line
import ProxyMeter.Metrics.Basic
import ProxyMeter.Pipeline.Queue
import ProxyMeter.Store.WriteFault
import ProxyMeter.Traffic.Record

/-!
# Notices of the pipeline

Every step of the pipeline that is counted or logged gives a notice. What the metrics and the log
say is read off the notices: `Notice.count` and `Notice.line`.
-/

namespace ProxyMeter.Pipeline

open Traffic

/-- Why `Collector.collect` drops an event. -/
inductive Turned where
  /-- The collector has been closed. -/
  | closed
  | refused (why : Refusal)
  deriving DecidableEq, Repr

/-- Something that happened in the pipeline. Workers are named by their numbers. -/
inductive Notice where
  | started (workers batchSize flushMillis : Nat)
  | stopping
  | stopped
  | collected (e : Event)
  | turnedAway (why : Turned) (e : Event)
  | workerStarted (worker : Nat)
  | workerDraining (worker : Nat)
  | workerGone (worker : Nat)
  | normalised (r : Record) (tookMillis : Float)
  | dropped (why : Refusal) (r : Record)
  /-- The time has come to write what has been gathered. -/
  | due (records : Nat)
  | publisherDraining
  | lastWrite (records : Nat)
  | stored (records : List Record) (tookMillis : Float)
  | lost (records : List Record) (fault : Store.WriteFault) (tookMillis : Float)
  | publisherGone

namespace Notice

/-- From where to where, and to which port. -/
def route (e : Event) : String := s!"{e.sourceIp} -> {e.destinationIp}:{e.port}"

/-- The words for an event that is turned away. -/
def turnedAwayText : Turned → Event → String
  | .closed, e => "采集器已关闭，丢弃事件: " ++ route e
  | .refused .full, e => "采集队列已满，丢弃事件: " ++ route e
  | .refused .abandoned, _ => "采集队列已关闭，丢弃事件"

/-- The words for a record that is dropped. -/
def droppedText : Refusal → Record → String
  | .full, r => "输出队列已满，丢弃记录: " ++ route r.event
  | .abandoned, _ => "输出队列已关闭，丢弃记录"

/-- The log line of a notice. An event that is taken leaves none. -/
def line : Notice → Option Log.Line
  | .started workers batchSize flushMillis => some ⟨.info, .pipeline,
      s!"流水线已启动: {workers} 个 worker, 批量 {batchSize}, 刷新间隔 {flushMillis}ms"⟩
  | .stopping => some ⟨.info, .pipeline, "正在停止流水线..."⟩
  | .stopped => some ⟨.info, .pipeline, "流水线已停止"⟩
  | .collected _ => none
  | .turnedAway why e => some ⟨.warn, .collector, turnedAwayText why e⟩
  | .workerStarted worker => some ⟨.debug, .normalizer, s!"normalizer worker #{worker} 已启动"⟩
  | .workerDraining worker => some ⟨.debug, .normalizer, s!"normalizer worker #{worker} 进入排空模式"⟩
  | .workerGone worker => some ⟨.debug, .normalizer, s!"normalizer worker #{worker} 已退出"⟩
  | .normalised _ _ => none
  | .dropped why r => some ⟨.warn, .normalizer, droppedText why r⟩
  | .due n => some ⟨.debug, .publisher, s!"定时写入 {n} 条记录"⟩
  | .publisherDraining => some ⟨.debug, .publisher, "publisher 收到停止信号，等待上游排空"⟩
  | .lastWrite n => some ⟨.info, .publisher, s!"写入最后 {n} 条记录"⟩
  | .stored records _ => some ⟨.debug, .publisher, s!"已写入 {records.length} 条流量记录"⟩
  | .lost records fault _ => some ⟨.error, .publisher,
      s!"丢弃 {records.length} 条流量记录: " ++ fault.message⟩
  | .publisherGone => some ⟨.info, .publisher, "publisher 已停止"⟩

/-- The event that was taken. -/
def taken? : Notice → Option Event
  | .collected e => some e
  | _ => none

/-- The event that was turned away. -/
def turned? : Notice → Option Event
  | .turnedAway _ e => some e
  | _ => none

/-- The record that was made of an event. -/
def normalised? : Notice → Option Record
  | .normalised r _ => some r
  | _ => none

/-- The record that was dropped. -/
def dropped? : Notice → Option Record
  | .dropped _ r => some r
  | _ => none

/-- The batch that was stored. -/
def stored? : Notice → Option (List Record)
  | .stored records _ => some records
  | _ => none

/-- The batch that was lost. -/
def lost? : Notice → Option (List Record)
  | .lost records _ _ => some records
  | _ => none

/-- What a notice changes in the metrics. -/
def count : Notice → Metrics → Metrics
  | .collected _, m => m.tick .eventsCollected
  | .turnedAway _ _, m => m.recordDropped .collector
  | .normalised _ took, m => (m.tick .eventsProcessed).observe took .processingLatency
  | .dropped _ _, m => m.recordDropped .normalizer
  | .stored records took, m =>
    (m.observe took .databaseQuery).add .eventsPublished records.length
  | .lost _ _ took, m => (m.observe took .databaseQuery).tick .databaseErrors
  | _, m => m

end Notice

end ProxyMeter.Pipeline
