/-!
# The command line

A command names a service and perhaps the document with its settings, or asks for help or for the
version. What stands first decides: help that is asked for before a mistake is given.
-/

namespace ProxyMeter.Service

/-- What can be run. -/
inductive Kind where
  /-- The proxy, its pipeline and the query interface. -/
  | proxy
  /-- The query interface alone. -/
  | api
  deriving DecidableEq, Repr

/-- What is asked for. -/
inductive Command where
  | help
  | version
  | run (kind : Kind) (document : Option String)
  deriving DecidableEq, Repr

namespace Command

/-- The document that a command names. -/
def document? : Command → Option String
  | .run _ document => document
  | _ => none

/-- The words for the version. -/
def versionText : String := "socks5-analytics 0.1.0"

/-- The words for help. -/
def helpText : String :=
  "SOCKS5 流量分析代理\n\nUsage: socks5-analytics <COMMAND>\n\nCommands:\n" ++
  "  proxy  运行 SOCKS5 代理、事件流水线和 HTTP 接口\n" ++
  "  api    只运行 HTTP 查询接口\n" ++
  "  help   Print this message or the help of the given subcommand(s)\n\nOptions:\n" ++
  "  -h, --help     Print help\n  -V, --version  Print version"

/-- The service of a name. -/
def kind? : String → Option Kind
  | "proxy" => some .proxy
  | "api" => some .api
  | _ => none

/-- Whether a word can be the value of an option: it does not look like an option itself. -/
def isValue (word : String) : Bool := !word.startsWith "-" || word = "-"

/-- The value that is written in one word with an option, in its long form or its short one. -/
def joinedValue? (word : String) : Option String :=
  match word.toList with
  | '-' :: 'c' :: '=' :: rest => some (String.ofList rest)
  | '-' :: 'c' :: rest => some (String.ofList rest)
  | cs =>
    if "--config=".toList.isPrefixOf cs then some (String.ofList (cs.drop "--config=".length))
    else none

/-- Whether a word asks for help. -/
def asksHelp (word : String) : Bool := word = "--help" || "-h".toList.isPrefixOf word.toList

/-- Reads what follows the name of a service. The document can be named once. -/
def options? (kind : Kind) (document : Option String) : List String → Option Command
  | [] => some (.run kind document)
  | ["--"] => some (.run kind document)
  | word :: rest =>
    if asksHelp word then some .help
    else if word = "-c" ∨ word = "--config" then
      match rest with
      | value :: rest =>
        if isValue value && document.isNone then options? kind (some value) rest else none
      | [] => none
    else match joinedValue? word with
      | some value => if document.isNone then options? kind (some value) rest else none
      | none => none

/-- Whether help can be given on these names. -/
def hasHelp : List String → Bool
  | [] => true
  | [name] => name = "help" || (kind? name).isSome
  | _ => false

/-- Reads a command; none if it cannot be understood (`Cli`). -/
def parse? : List String → Option Command
  | [] => none
  | word :: rest =>
    if asksHelp word then some .help
    else if word = "--version" || "-V".toList.isPrefixOf word.toList then some .version
    else if word = "help" then if hasHelp rest then some .help else none
    else match kind? word with
      | some kind => options? kind none rest
      | none => none

end Command

end ProxyMeter.Service
