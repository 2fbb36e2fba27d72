import ProxyMeter.Settings.Document
import ProxyMeter.Settings.Overrides
import ProxyMeter.Settings.Validation
import ProxyMeter.Text.Utf8

/-!
# Loading settings

The environment goes before the document, and the document before the defaults. A document that is
asked for by path has to be there; otherwise one with the usual name is taken if it is there.
-/

namespace ProxyMeter.Settings

/-- The files that can be read, by path. -/
abbrev Files := String → Option (List UInt8)

/-- The name of the document that is taken when none is asked for (`DEFAULT_CONFIG_FILE`). -/
def defaultPath : String := "socks5-analytics.toml"

/-- The settings that the bytes of a document say (`Config.from_file`). -/
def ofBytes (path : String) (bytes : List UInt8) : Except Fault Settings :=
  match Text.ofUtf8? bytes with
  | none => .error (.unreadable path)
  | some text =>
    match (Toml.parse? text).bind ofDocument? with
    | none => .error (.malformed path)
    | some settings => .ok settings

/-- The settings of the document at a path (`Config.from_file`). -/
def ofFile (files : Files) (path : String) : Except Fault Settings :=
  match files path with
  | none => .error (.unreadable path)
  | some bytes => ofBytes path bytes

/-- The document that is taken: the one asked for, else the usual one if it is there
(`Config.find_default_file`). -/
def documentPath? (files : Files) (asked : Option String) : Option String :=
  asked.or (if (files defaultPath).isSome then some defaultPath else none)

/-- The settings under the environment, if they are valid (`Config.apply_overrides`, then
`Config.validate`). -/
def finish (env : Environment) (s : Settings) : Except Fault Settings :=
  match s.overridden env with
  | (_, some fault) => .error fault
  | (s, none) =>
    match s.fault? with
    | some fault => .error fault
    | none => .ok s

/-- The settings from document and environment (`Config.load`). -/
def load (files : Files) (env : Environment) (asked : Option String) : Except Fault Settings :=
  match documentPath? files asked with
  | none => finish env {}
  | some path => (ofFile files path).bind (finish env)

end ProxyMeter.Settings
