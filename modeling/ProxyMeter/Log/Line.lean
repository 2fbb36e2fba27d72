/-!
# Log lines

A line has a level, the part of the program that wrote it, and a text.
-/

namespace ProxyMeter.Log

/-- How grave a line is. -/
inductive Level where
  | trace
  | debug
  | info
  | warn
  | error
  deriving DecidableEq, Repr

namespace Level

/-- A level as it is written. -/
def name : Level → String
  | .trace => "TRACE"
  | .debug => "DEBUG"
  | .info => "INFO"
  | .warn => "WARN"
  | .error => "ERROR"

/-- Graver levels have higher ranks; rank zero is for no level. -/
def rank : Level → Nat
  | .trace => 1
  | .debug => 2
  | .info => 3
  | .warn => 4
  | .error => 5

end Level

/-- The part of the program that writes a line. -/
inductive Origin where
  | command
  | settings
  | database
  | interface
  | queries
  | service
  | server
  | pipeline
  | collector
  | normalizer
  | publisher
  deriving DecidableEq, Repr

/-- The path under which the lines of a part are filtered. -/
def Origin.path : Origin → String
  | .command => "socks5_analytics"
  | .settings => "socks5_analytics::config"
  | .database => "socks5_analytics::migration"
  | .interface => "socks5_analytics::api"
  | .queries => "socks5_analytics::api::handlers"
  | .service => "socks5_analytics::app"
  | .server => "socks5_analytics::proxy::server"
  | .pipeline => "socks5_analytics::pipeline"
  | .collector => "socks5_analytics::pipeline::collector"
  | .normalizer => "socks5_analytics::pipeline::normalizer"
  | .publisher => "socks5_analytics::pipeline::publisher"

/-- One line. -/
structure Line where
  level : Level
  origin : Origin
  text : String
  deriving DecidableEq, Repr

/-- The level and the text of a line. -/
def Line.render (l : Line) : String := l.level.name ++ " " ++ l.text

/-- Whether a line is at least as grave as a level. -/
def Line.reaches (least : Level) (l : Line) : Bool := least.rank ≤ l.level.rank

end ProxyMeter.Log
