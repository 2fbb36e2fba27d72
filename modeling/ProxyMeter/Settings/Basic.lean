/-!
# Settings

What can be set, section by section, with the values that hold when nothing is said.
-/

namespace ProxyMeter

/-- Who may log in to the proxy (`AuthConfig`). -/
structure LoginSettings where
  enabled : Bool := false
  username : String := ""
  password : String := ""
  deriving DecidableEq, Repr

/-- The proxy (`ProxyConfig`). With an empty allow-list every client is let in. -/
structure ProxySettings where
  address : String := "0.0.0.0"
  port : UInt16 := 1080
  maxConnections : UInt64 := 10000
  login : LoginSettings := {}
  allowList : List String := []
  deriving DecidableEq, Repr

/-- The query interface (`ApiConfig`). -/
structure ApiSettings where
  address : String := "0.0.0.0"
  port : UInt16 := 8080
  deriving DecidableEq, Repr

/-- The file that holds the records (`DatabaseConfig`). -/
structure StoreSettings where
  path : String := "./data/socks5-analytics.db"
  deriving DecidableEq, Repr

/-- The way of an event from a session to the store (`PipelineConfig`). -/
structure PipelineSettings where
  workers : UInt64 := 4
  inputCapacity : UInt64 := 10000
  outputCapacity : UInt64 := 10000
  batchSize : UInt64 := 100
  flushMillis : UInt64 := 5000
  deriving DecidableEq, Repr

/-- Log lines: the filter, text or json, and the directory they are kept in (`LoggingConfig`). -/
structure LogSettings where
  level : String := "info"
  format : String := "text"
  directory : Option String := none
  deriving DecidableEq, Repr

/-- The limit on the connections of one client in a second (`RateLimitConfig`). -/
structure RateSettings where
  enabled : Bool := false
  perSecond : UInt32 := 100
  deriving DecidableEq, Repr

/-- All settings (`Config`). -/
structure Settings where
  proxy : ProxySettings := {}
  api : ApiSettings := {}
  store : StoreSettings := {}
  pipeline : PipelineSettings := {}
  log : LogSettings := {}
  rate : RateSettings := {}
  deriving DecidableEq, Repr

/-- The address that the proxy listens on (`ProxyConfig.bind_addr`). -/
def ProxySettings.bindAddress (s : ProxySettings) : String := s!"{s.address}:{s.port}"

/-- The address that the query interface listens on (`ApiConfig.bind_addr`). -/
def ApiSettings.bindAddress (s : ApiSettings) : String := s!"{s.address}:{s.port}"

end ProxyMeter
