import CatalogConsole.Console.Session

/-! # The command line

The console as a program.  It reads the variables that it needs from the environment and defaults
for them from a file named `.env`, if there is one.  No transport to the service is built
in, so every construction of a client fails, and a command that needs one reports a failed call.
-/
namespace CatalogConsole

/-- A remote side that cannot be reached. -/
def unreachable : Remote where
  construction := fun _ =>
    some (.library (.general [.text "No transport to the service is available."] none))

/-- The variables of the process that bear on a launch with these defaults: those that the console
reads, and those to which the defaults assign a value. -/
def readEnvironment (defaults : String) : IO Environment := do
  let assigned := (Assignment.ofText defaults).map (·.name)
  let names := Settings.projectVariable :: Settings.regionVariable ::
    Environment.refusalVariable :: assigned.filter fun name => (VariableError.of? name "").isNone
  let pairs ← names.filterMapM fun name => do return (← IO.getEnv name).map (name, ·)
  return .ofList pairs

/-- The text of the file of defaults, which is empty if there is no such file. -/
def readDefaults : IO String := do
  try IO.FS.readFile ".env" catch _ => return ""

/-- Writes the texts among the events to their streams. -/
def writeEvents (events : List Event) : IO Unit :=
  events.forM fun
    | .out text => do
      let stream ← IO.getStdout
      stream.putStr text
    | .err text => do
      let stream ← IO.getStderr
      stream.putStr text
    | _ => return ()

/-- Runs the console on a command line.  A failure that it lets through ends the process with the
same exit code as a failed call. -/
def runProcess (argv : List String) : IO UInt32 := do
  let defaults ← readDefaults
  let report := launch .lineReader argv (← readEnvironment defaults) defaults unreachable
  writeEvents report.events
  match report.ending with
  | .ok code => return code.number.toUInt32
  | .error f =>
    match f.text with
    | .ok text => writeEvents [.err (textOfLines [text])]
    | .error reason => writeEvents [.err (textOfLines [reason.message])]
    return ExitCode.failure.number.toUInt32

end CatalogConsole

/-- Runs the console on the words of the command line. -/
def main (argv : List String) : IO UInt32 :=
  CatalogConsole.runProcess argv
