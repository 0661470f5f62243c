import CatalogConsole.Console
import CatalogConsole.History

/-! # Sessions and launches

A session runs one command line after another.  Each of them brings its own service, with or
without a client, or uses the one that the whole session shares.  Constructions of clients are
numbered through the session.

A launch is one run as a whole: it has the environment completed by a loader, takes the log flags off
the command line, sets up the log accordingly, and runs the rest with a service that has no client yet.
If the environment cannot be completed, nothing else happens.
-/
namespace CatalogConsole

/-- The service that a command line uses. -/
inductive ServiceMode
  /-- A service of its own that holds a client. -/
  | given
  /-- The service that the session shares. -/
  | shared
  /-- A service of its own that has no client yet. -/
  | own
  deriving DecidableEq, Repr

/-- A command line in a session, and the circumstances that it meets. -/
structure SessionStep where
  argv : List String
  given : Option Settings
  env : Environment
  mode : ServiceMode
  remote : Remote

/-- The state of a session: whether the shared service holds a client, and the number of
constructions so far. -/
structure Session where
  sharedHeld : Bool := false
  attempts : Nat := 0
  deriving DecidableEq, Repr

/-- How a command line ended, and what it did. -/
structure RunReport where
  ending : Except Failure ExitCode
  trace : Trace

namespace Session

/-- The link that a command line starts with. -/
def link (session : Session) : ServiceMode → Link
  | .given => ⟨true, session.attempts⟩
  | .shared => ⟨session.sharedHeld, session.attempts⟩
  | .own => ⟨false, session.attempts⟩

/-- The session after a command line that left this link. -/
def after (session : Session) (mode : ServiceMode) (link : Link) : Session where
  sharedHeld := if mode = .shared then link.held else session.sharedHeld
  attempts := link.attempts

/-- Runs the next command line. -/
def step (session : Session) (s : SessionStep) : Session × RunReport :=
  let outcome := (Console.run s.argv s.given s.env).run s.remote (session.link s.mode)
  (session.after s.mode outcome.link, ⟨outcome.result, outcome.trace⟩)

end Session

/-- How a launch ended: the ending of the run, what it did, and the log that was set up. -/
structure LaunchReport where
  ending : Except Failure ExitCode
  trace : Trace
  log : Log

/-- Launches the console on a command line, in an environment that a loader completes by a text of
defaults. -/
def launch (loader : Loader) (argv : List String) (env : Environment) (defaults : String)
    (remote : Remote) : LaunchReport :=
  match loader.complete env defaults with
  | .error e => ⟨.error (.fault .value (.text e.message)), [], .initial⟩
  | .ok completed =>
    let (flags, command) := LogFlags.split argv
    let outcome := (Console.run command none completed).run remote {}
    ⟨outcome.result, outcome.trace, Log.setup flags⟩

section Launch
variable {loader : Loader} {argv : List String} {env : Environment} {defaults : String}

/-- Where the environment cannot be completed, a launch does nothing. -/
theorem launch_of_fault {e : VariableError} (fault : loader.complete env defaults = .error e)
    (remote : Remote) :
    launch loader argv env defaults remote =
      ⟨.error (.fault .value (.text e.message)), [], .initial⟩ := by
  simp only [launch, fault]

/-- Else it is a run behind the log flags, with the environment completed. -/
theorem launch_of_completed {completed : Environment}
    (loads : loader.complete env defaults = .ok completed) (remote : Remote) :
    launch loader argv env defaults remote =
      let outcome := (Console.run (LogFlags.split argv).2 none completed).run remote {}
      ⟨outcome.result, outcome.trace, Log.setup (LogFlags.split argv).1⟩ := by
  simp only [launch, loads]

end Launch

/-- What is seen of a launch. -/
def LaunchReport.events (r : LaunchReport) : List Event :=
  r.trace.seen r.log

end CatalogConsole
