import ProxyMeter.Service.Program

/-!
# The program's outer layer

Reads the words, the environment and the documents that a program may ask for, prints what the
program says, and takes the end of the input for the signal to stop.
-/

namespace ProxyMeter.Main

open Service

/-- The files among these paths that can be read. -/
def readFiles (paths : List String) : IO (List (String × List UInt8)) :=
  paths.filterMapM fun (path : String) => do
    try
      return some (path, (← IO.FS.readBinFile path).toList)
    catch _ => return none

/-- The variables among these names that are set. -/
def readVariables (names : List String) : IO (List (String × String)) :=
  names.filterMapM fun (name : String) => do return (← IO.getEnv name).map (name, ·)

/-- A line as it is printed. -/
def shown (l : Log.Line) : String := s!"{l.level.name} {l.origin.path}: {l.text}"

/-- Reads the input to its end. -/
partial def awaitEnd (input : IO.FS.Stream) : IO Unit := do
  if (← input.getLine).isEmpty then return else awaitEnd input

/-- Runs the program. -/
def run (words : List String) : IO UInt32 := do
  let named := (Command.parse? words).toList.filterMap (·.document?)
  let files ← readFiles (Settings.defaultPath :: named)
  let environment ← readVariables (filterVariable :: Settings.Variable.all.map (·.name))
  let surroundings : Surroundings := { listen := .ok }
  let outcome := launch words (files.lookup ·) (environment.lookup ·) surroundings
  if let .said text := outcome then IO.println text
  for l in outcome.lines do IO.println (shown l)
  for text in outcome.errors do IO.eprintln text
  match outcome.exitCode? with
  | some code => return UInt32.ofNat code
  | none =>
    awaitEnd (← IO.getStdin)
    for l in outcome.lastLines .terminate do IO.println (shown l)
    return 0

end ProxyMeter.Main

/-- The program. -/
def main (words : List String) : IO UInt32 := ProxyMeter.Main.run words
