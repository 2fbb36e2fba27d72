import ProxyMeter.Log.Filter
import ProxyMeter.Service.Run
import ProxyMeter.Settings.Load

/-!
# The program

A command is read, the settings are loaded, the log is set up and the service is started. The
program ends with zero, with one if the service does not run, with two if the command is not
understood, and with 101 if it breaks off.
-/

namespace ProxyMeter.Service

open Log

/-- The variable that can hold a filter for the log. -/
def filterVariable : String := "RUST_LOG"

/-- How the name of a log file starts; the day follows (`LOG_FILE`). -/
def logFileName : String := "socks5-analytics.log."

/-- Where the log goes, and what is kept of it (`logging.init`). -/
structure Journal where
  filter : Filter
  /-- What is said about the filter when the log is set up. -/
  complaints : List String
  /-- The directory of the log files; without one the log goes to the console. -/
  directory : Option String
  deriving DecidableEq, Repr

/-- The log of a program with these settings in an environment. -/
def Journal.ofSettings (env : Settings.Environment) (s : LogSettings) : Journal :=
  let (filter, complaints) := Filter.ofProgram (env filterVariable) s.level
  { filter, complaints, directory := s.directory }

/-- The disk when the log has been set up; none if its directory cannot be made. -/
def Journal.setUp? (j : Journal) (d : Store.Disk) : Option Store.Disk :=
  match j.directory with
  | none => some d
  | some directory => d.makeDirectories? directory

/-- What a program comes to. -/
inductive Outcome where
  /-- It says something and ends. -/
  | said (text : String)
  /-- The command is not understood. -/
  | misused
  | noSettings (fault : Settings.Fault)
  /-- The log cannot be set up, and the program breaks off. -/
  | noJournal
  | notRunning (journal : Journal) (lines : List Line) (fault : Fault)
  | running (journal : Journal) (lines : List Line) (service : Running)

namespace Outcome

/-- The number with which a program ends; none while it runs. -/
def exitCode? : Outcome → Option Nat
  | .said _ => some 0
  | .misused => some 2
  | .noSettings _ => some 1
  | .noJournal => some 101
  | .notRunning _ _ .pipeline => some 101
  | .notRunning _ _ _ => some 1
  | .running _ _ _ => none

/-- The words with which a program fails. -/
def failure? : Outcome → Option String
  | .noSettings fault => some ("Error: " ++ fault.message)
  | .notRunning _ _ fault => fault.message?.map ("Error: " ++ ·)
  | _ => none

/-- The log, if it has been set up. -/
def journal? : Outcome → Option Journal
  | .notRunning journal _ _ => some journal
  | .running journal _ _ => some journal
  | _ => none

/-- What is said about the program itself, its failure last. -/
def errors (o : Outcome) : List String :=
  (o.journal?.toList.flatMap (·.complaints)) ++ o.failure?.toList

/-- The lines that are kept. -/
def lines : Outcome → List Line
  | .notRunning journal lines _ => lines.filter journal.filter.keeps
  | .running journal lines _ => lines.filter journal.filter.keeps
  | _ => []

/-- The lines that are kept when a running program is stopped. -/
def lastLines (signal : Signal) : Outcome → List Line
  | .running journal _ service => (stop signal service).filter journal.filter.keeps
  | _ => []

end Outcome

/-- What a program comes to when it is started with these words (`main`). -/
def launch (words : List String) (files : Settings.Files) (env : Settings.Environment)
    (around : Surroundings) : Outcome :=
  match Command.parse? words with
  | none => .misused
  | some .help => .said Command.helpText
  | some .version => .said Command.versionText
  | some (.run kind document) =>
    match Settings.load files env document with
    | .error fault => .noSettings fault
    | .ok s =>
      let journal := Journal.ofSettings env s.log
      match journal.setUp? around.disk with
      | none => .noJournal
      | some disk =>
        match start kind s { around with disk } with
        | (lines, .error fault) => .notRunning journal lines fault
        | (lines, .ok service) => .running journal lines service

end ProxyMeter.Service
