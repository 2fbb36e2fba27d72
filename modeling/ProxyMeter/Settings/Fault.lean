/-!
# What can be wrong with settings
-/

namespace ProxyMeter.Settings

/-- Why there are no valid settings. -/
inductive Fault where
  | unreadable (path : String)
  | malformed (path : String)
  | variable (name raw : String)
  | noConnections
  | noUsername
  | noWorkers
  | noQueue
  | noBatch
  | noInterval
  | noRate
  | logFormat (name : String)
  deriving DecidableEq, Repr

/-- The words for a fault. -/
def Fault.message : Fault → String
  | .unreadable path => "无法读取配置文件: " ++ path
  | .malformed path => "解析配置文件失败: " ++ path
  | .variable name raw => s!"环境变量 {name} 的值无效: {raw}"
  | .noConnections => "proxy.max_connections 必须大于 0"
  | .noUsername => "启用认证时 proxy.auth.username 不能为空"
  | .noWorkers => "pipeline.workers 必须大于 0"
  | .noQueue => "pipeline 队列容量必须大于 0"
  | .noBatch => "pipeline.batch_size 必须大于 0"
  | .noInterval => "pipeline.flush_interval_ms 必须大于 0"
  | .noRate => "启用限流时 rate_limit.requests_per_second 必须大于 0"
  | .logFormat name => "不支持的日志格式: " ++ name

end ProxyMeter.Settings
