import ProxyMeter.Settings.Basic
import ProxyMeter.Settings.Fault

/-!
# Valid settings

Settings are valid if nothing that must be positive is zero, a login that is asked for has a user,
and the log format is known. Of several faults the first in this order is reported.
-/

namespace ProxyMeter.Settings

/-- The rules, each a fault and whether it is present (`Config.validate`). -/
def faults (s : Settings) : List (Fault × Bool) :=
  [(.noConnections, s.proxy.maxConnections == 0),
    (.noUsername, s.proxy.login.enabled && s.proxy.login.username == ""),
    (.noWorkers, s.pipeline.workers == 0),
    (.noQueue, s.pipeline.inputCapacity == 0 || s.pipeline.outputCapacity == 0),
    (.noBatch, s.pipeline.batchSize == 0),
    (.noInterval, s.pipeline.flushMillis == 0),
    (.noRate, s.rate.enabled && s.rate.perSecond == 0),
    (.logFormat s.log.format, s.log.format != "text" && s.log.format != "json")]

/-- The first fault of settings; none if they are valid (`Config.validate`). -/
def fault? (s : Settings) : Option Fault :=
  (s.faults.find? (·.2)).map (·.1)

end ProxyMeter.Settings
