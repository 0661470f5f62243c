import CatalogConsole.Command.Builtin
import CatalogConsole.Settings

/-! # The console

`Console.run` runs one command line and ends with an exit code.  A request for help is answered
before anything else.  Then the command line has to make sense, then there have to be settings, and
only after that does the command take place.  Each of the three can go wrong in its own way, with a
message on the error stream and an exit code; a command that fails for any other reason than a
failed call, or with a failed call that has no text, lets its failure through.
-/
namespace CatalogConsole

/-- How a command line ends. -/
inductive ExitCode
  | success
  | failure
  | usage
  deriving DecidableEq, Repr

/-- The number of an exit code. -/
def ExitCode.number : ExitCode → Nat
  | success => 0
  | failure => 1
  | usage => 2

namespace Console

/-- The logger that the notes of the console go to. -/
def logger : String := "main"

/-- The words that ask for help. -/
def helpWords : List String := ["help", "-h", "--help"]

/-- Whether a command line asks for help. -/
def asksForHelp : List String → Bool
  | [] => false
  | word :: _ => helpWords.contains (Text.lowercase word)

/-- Carries out an operation in the name of a command.  A failure with a report gives an exit code. -/
def report (name : String) (action : Action Unit) : Action ExitCode :=
  ⟨fun remote link =>
    let outcome := action.run remote link
    match outcome.result with
    | .ok () => ⟨.ok .success, outcome.link, outcome.trace⟩
    | .error f =>
      match f.report with
      | .ok text =>
        ⟨.ok .failure, outcome.link, outcome.trace ++
          [.event (.err (textOfLines ["Error executing " ++ name ++ ": " ++ text]))]⟩
      | .error f => ⟨.error f, outcome.link, outcome.trace⟩⟩

/-- Runs a command that makes sense, in a location. -/
def carryOut (place : Location) (i : Invocation Operation) : Action ExitCode := do
  Action.note logger ("Running " ++ i.command.name ++ " in " ++ place.path)
  report i.command.name (i.action.execute place)

/-- Runs a command line with the settings that are given, or else with those of the environment. -/
def run (argv : List String) (given : Option Settings) (env : Environment) : Action ExitCode :=
  if asksForHelp argv then do
    Action.say [Builtin.registry.helpText]
    return .success
  else
    match Builtin.registry.resolve argv with
    | .error e => do
      Action.complain ["Usage error: " ++ e.message, Builtin.registry.helpText]
      return .usage
    | .ok i =>
      match given.elim (Settings.load env) .ok with
      | .error e => do
        Action.complain ["Configuration error: " ++ e.message]
        return .failure
      | .ok settings => carryOut settings.location i

end Console

end CatalogConsole
