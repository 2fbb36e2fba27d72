import ProxyMeter.Clock.Span
import ProxyMeter.Store.Fault

/-!
# Failed writes
-/

namespace ProxyMeter.Store

/-- Why a batch did not get into the store (`FlushError`). -/
inductive WriteFault where
  | timedOut (after : Clock.Span)
  | refused (fault : Fault)
  deriving DecidableEq, Repr

/-- The words for a failed write. -/
def WriteFault.message : WriteFault → String
  | .timedOut after => "批量写入超时 (" ++ after.render ++ ")"
  | .refused fault => "批量写入失败: " ++ fault.message

end ProxyMeter.Store
