/-!
# What can go wrong with a store
-/

namespace ProxyMeter.Store

/-- Why a store does not do what it is asked. -/
inductive Fault where
  /-- Writing has been switched off. -/
  | writesOff
  /-- There is no table to write to. -/
  | noTableToWrite
  /-- There is no table to read. -/
  | noTableToRead
  /-- A sum does not fit a signed word of sixty-four bits. -/
  | sumOutOfRange
  /-- A fault that a store describes in words of its own. -/
  | described (text : String)
  /-- A number has no place in the store's words; the call is broken off and never answers. -/
  | brokenOff
  deriving DecidableEq, Repr

/-- The words for a fault. -/
def Fault.message : Fault → String
  | .writesOff => "内存存储写入失败"
  | .noTableToWrite =>
    "Execution Error: error returned from database: (code: 1) no such table: traffic_log"
  | .noTableToRead =>
    "Query Error: error returned from database: (code: 1) no such table: traffic_log"
  | .sumOutOfRange => "Query Error: error returned from database: (code: 1) integer overflow"
  | .described text => text
  | .brokenOff => ""

end ProxyMeter.Store
