import ProxyMeter.Pipeline.Notice

/-!
# The collector

Events enter the pipeline here. Taking one never waits: what does not fit is turned away. The
collector sends into a queue, and it is closed when the queue has no source; all who hold a clone of
it see it closed.
-/

namespace ProxyMeter.Pipeline.Collector

open Traffic

/-- Sends an event if there is room, and turns it away if not: `try_send` in `Collector.collect`. -/
def send (e : Event) (q : Queue Event) : Notice × Queue Event :=
  match q.offer e with
  | .ok q => (.collected e, q)
  | .error why => (.turnedAway (.refused why) e, q)

/-- Takes an event or turns it away (`Collector.collect`). That the collector is closed is seen
first. -/
def collect (e : Event) (q : Queue Event) : Notice × Queue Event :=
  if q.hasSource then send e q else (.turnedAway .closed e, q)

end ProxyMeter.Pipeline.Collector
