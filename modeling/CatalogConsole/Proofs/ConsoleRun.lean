import CatalogConsole.Console.Session
import CatalogConsole.Proofs.CommandStages
import CatalogConsole.Proofs.FailureReports

/-! # How a command line is run

A command line comes to one of four things: an answer to a request for help, a complaint about its
words, a complaint about the settings, or a command that is carried out.  One equation for each says
what the run is then.  A command line that names a command never asks for help
(`asksForHelp_of_resolved`), so the first of the four need not be excluded for the fourth.

`run_report` separates what a command comes to from what the console makes of it: an ending, and at
most one line on the error stream.
-/
namespace CatalogConsole

namespace SessionStep

/-- The settings that a command line works with, unless they are unusable. -/
def settings (s : SessionStep) : Except ConfigError Settings :=
  s.given.elim (Settings.load s.env) .ok

/-- Whether a command line gets as far as to carry out a command. -/
def carriesOut (s : SessionStep) : Bool :=
  !Console.asksForHelp s.argv && (Builtin.registry.resolve s.argv).isOk && s.settings.isOk

end SessionStep

namespace Builtin

/-- The words that ask for help are not the names of commands. -/
theorem lookup_helpWords : ∀ word ∈ Console.helpWords, registry.lookup word = none := by
  have absent : Console.helpWords.all (fun word => (registry.lookup word).isNone) = true := by
    decide +kernel
  intro word hword
  exact Option.isNone_iff_eq_none.mp (List.all_eq_true.mp absent word hword)

/-- A built-in command is registered under its name. -/
theorem lookup_name {c : Command Operation} (builtin : c ∈ commands) :
    registry.lookup c.name = some c := by
  simp only [commands, List.mem_cons, List.not_mem_nil, or_false] at builtin
  simp only [registry, Registry.ofList, commands, List.foldl_cons, List.foldl_nil,
    Registry.lookup_register]
  rcases builtin with rfl | rfl | rfl | rfl | rfl | rfl <;>
    simp [createProductSet, listProductSets, getProductSet, listProducts, addProduct,
      deleteProductSet]

/-- Its name is in lower case. -/
theorem lowercase_name {c : Command Operation} (builtin : c ∈ commands) :
    Text.lowercase c.name = c.name := by
  have plain : commands.all (fun c => c.name.toList.all Text.isPlain) = true := by decide +kernel
  exact Text.lowercase_of_plain (List.all_eq_true.mp plain c builtin)

/-- **Its name with words for all of its parameters makes sense.** -/
theorem resolve_name {c : Command Operation} (builtin : c ∈ commands) (args : List String)
    (fits : args.length = c.params.length) :
    registry.resolve (c.name :: args) = .ok ⟨c, args, fits⟩ := by
  rw [Registry.resolve, Registry.get?, lowercase_name builtin, lookup_name builtin]
  exact c.invoke_of_fits fits

/-- A command line that names a command has its command from the registry. -/
theorem lookup_of_resolved {argv : List String} {i : Invocation Operation}
    (h : registry.resolve argv = .ok i) :
    ∃ word args, argv = word :: args ∧ registry.lookup (Text.lowercase word) = some i.command ∧
      i.args = args := by
  obtain ⟨word, rfl, found⟩ := Registry.resolve_eq_ok_iff.mp h
  exact ⟨word, i.args, rfl, found, rfl⟩

/-- The command that a command line names is registered under its name. -/
theorem registered_of_resolved {argv : List String} {i : Invocation Operation}
    (h : registry.resolve argv = .ok i) : registry.lookup i.command.name = some i.command := by
  obtain ⟨word, args, -, found, -⟩ := lookup_of_resolved h
  have named : i.command.name = Text.lowercase word := by
    simpa using List.find?_some found
  rw [named, found]

end Builtin

namespace Console

variable {argv : List String} {given : Option Settings} {env : Environment}

/-- **A command line that names a command does not ask for help.** -/
theorem asksForHelp_of_resolved {i : Invocation Operation}
    (resolved : Builtin.registry.resolve argv = .ok i) : asksForHelp argv = false := by
  obtain ⟨word, args, rfl, found, -⟩ := Builtin.lookup_of_resolved resolved
  cases asks : helpWords.contains (Text.lowercase word) with
  | false => exact asks
  | true =>
    rw [Builtin.lookup_helpWords _ (List.contains_iff_mem.mp asks)] at found
    cases found

/-! ## The four cases -/

theorem run_of_help (asks : asksForHelp argv = true) :
    run argv given env = do
      Action.say [Builtin.registry.helpText]
      return .success := by
  simp only [run, asks, if_true]

theorem run_of_unresolved (silent : asksForHelp argv = false) {e : UsageError}
    (unresolved : Builtin.registry.resolve argv = .error e) :
    run argv given env = do
      Action.complain ["Usage error: " ++ e.message, Builtin.registry.helpText]
      return .usage := by
  simp only [run, silent, unresolved]
  rfl

theorem run_of_unusable {i : Invocation Operation}
    (resolved : Builtin.registry.resolve argv = .ok i) {e : ConfigError}
    (unusable : given.elim (Settings.load env) .ok = .error e) :
    run argv given env = do
      Action.complain ["Configuration error: " ++ e.message]
      return .failure := by
  simp only [run, asksForHelp_of_resolved resolved, resolved, unusable]
  rfl

theorem run_of_usable {i : Invocation Operation}
    (resolved : Builtin.registry.resolve argv = .ok i) {settings : Settings}
    (usable : given.elim (Settings.load env) .ok = .ok settings) :
    run argv given env = carryOut settings.location i := by
  simp only [run, asksForHelp_of_resolved resolved, resolved, usable]
  rfl

/-! ## What the console makes of a command -/

/-- The line on the error stream about a failure with this report. -/
def failureLine (name text : String) : String :=
  textOfLines ["Error executing " ++ name ++ ": " ++ text]

/-- How a command line ends if its command comes to this. -/
def ending : Except Failure Unit → Except Failure ExitCode
  | .ok () => .ok .success
  | .error f =>
    match f.report with
    | .ok _ => .ok .failure
    | .error f => .error f

/-- What is said about a command that comes to this. -/
def verdict (name : String) : Except Failure Unit → Trace
  | .ok () => []
  | .error f =>
    match f.report with
    | .ok text => [.event (.err (failureLine name text))]
    | .error _ => []

theorem run_report (name : String) (action : Action Unit) (remote : Remote) (link : Link) :
    (report name action).run remote link =
      ⟨ending (action.run remote link).result, (action.run remote link).link,
        (action.run remote link).trace ++ verdict name (action.run remote link).result⟩ := by
  rcases h : action.run remote link with ⟨f | _, link', trace⟩
  · cases told : f.report <;> simp [report, h, ending, verdict, failureLine, told]
  · simp [report, h, ending, verdict]

/-- **A command that fails** with a report is told by one line and exit code 1, and else it ends with what
is let through. -/
theorem told_or_let_through (name : String) (f : Failure) :
    (∀ text, f.normalized.report = .ok text →
      verdict name (Failure.raised (some f)) = [.event (.err (failureLine name text))] ∧
        ending (Failure.raised (some f)) = .ok .failure) ∧
    (∀ g, f.normalized.report = .error g →
      verdict name (Failure.raised (some f)) = [] ∧
        ending (Failure.raised (some f)) = .error g) := by
  rw [Failure.raised_some, verdict, ending]
  constructor
  · intro text told
    rw [told]
    exact ⟨rfl, rfl⟩
  · intro g untold
    rw [untold]
    exact ⟨rfl, rfl⟩

/-- **A command line that carries out a command succeeds only if nothing fails**, and it never ends as
one whose words make no sense. -/
theorem ending_raised (failure? : Option Failure) :
    (ending (Failure.raised failure?) = .ok .success ↔ failure? = none) ∧
      ending (Failure.raised failure?) ≠ .ok .usage := by
  cases failure? with
  | none => simp [ending]
  | some f =>
    obtain ⟨told, untold⟩ := told_or_let_through "" f
    cases report : f.normalized.report with
    | ok text =>
      rw [(told text report).2]
      simp
    | error g =>
      rw [(untold g report).2]
      simp

/-- Before a command there is a note about it. -/
def runningNote (place : Location) (name : String) : Activity :=
  .note ⟨.debug, logger, "Running " ++ name ++ " in " ++ place.path⟩

theorem run_carryOut (place : Location) (i : Invocation Operation) (remote : Remote) (link : Link) :
    let outcome := (i.action.execute place).run remote link
    (carryOut place i).run remote link =
      ⟨ending outcome.result, outcome.link,
        runningNote place i.command.name :: outcome.trace ++
          verdict i.command.name outcome.result⟩ := by
  intro outcome
  simp [carryOut, Action.note, run_report, runningNote, outcome]

/-- **A run behind the gates** goes through the stages of its command, and ends according to the first
that fails. -/
theorem run_eq_stages {i : Invocation Operation} (resolved : Builtin.registry.resolve argv = .ok i)
    {settings : Settings} (usable : given.elim (Settings.load env) .ok = .ok settings)
    (remote : Remote) (link : Link) :
    let stages := (i.action.call settings.location).stages remote link
    let result := Failure.raised (Stage.firstFailure? stages)
    (run argv given env).run remote link =
      ⟨ending result, remote.linkAfter link, runningNote settings.location i.command.name ::
        Stage.trace stages ++ verdict i.command.name result⟩ := by
  intro stages result
  rw [run_of_usable resolved usable, run_carryOut, Operation.execute, run_execute]

/-- What the console says about a command is on the error stream. -/
theorem view_verdict {α : Type} (select : Event → Option α)
    (other : ∀ text, select (.err text) = none) (name : String) (result : Except Failure Unit) :
    (verdict name result).view select = [] := by
  unfold verdict
  split
  · rfl
  · split
    · simp [other]
    · rfl

/-- Around a command nothing is printed. -/
theorem view_output_around (place : Location) (name : String) (trace : Trace)
    (result : Except Failure Unit) :
    Trace.view (·.textFor .output) (runningNote place name :: trace ++ verdict name result) =
      trace.view (·.textFor .output) := by
  rw [List.cons_append, runningNote, Trace.view_note, Trace.view_append,
    view_verdict _ fun _ => rfl, List.append_nil]

/-- What the console says about a command does not go through the log. -/
theorem records_verdict (name : String) (result : Except Failure Unit) :
    (verdict name result).records = [] := by
  unfold verdict
  split
  · rfl
  · split <;> rfl

/-- The note before a command is not that of a connection. -/
theorem isConnection_runningNote (place : Location) (name : String) :
    (runningNote place name).isConnection = false := by
  simp [runningNote, Service.connectNote, Activity.isConnection, logger, Service.logger]

/-- Neither is there a connection in what the console says about a command. -/
theorem withoutConnection_verdict (name : String) (result : Except Failure Unit) :
    (verdict name result).withoutConnection = verdict name result := by
  unfold verdict
  split
  · rfl
  · split <;> rfl

theorem usesClient_carryOut (place : Location) (i : Invocation Operation) :
    (carryOut place i).UsesClient [i.action.call place] := by
  have uses := usesClient_execute (i.action.call place)
  refine ⟨fun remote link => ?_, fun remote link => ?_, fun remote link => ?_⟩
  all_goals rw [run_carryOut]
  · exact uses.link_run remote link
  · simp only [List.cons_append, runningNote, Trace.view_note, Trace.view_append, List.append_nil,
      view_verdict Event.attempt? fun _ => rfl]
    exact uses.connects_run remote link
  · simp only [List.cons_append, runningNote, Trace.view_note, Trace.view_append, List.append_nil,
      view_verdict Event.call? fun _ => rfl]
    exact uses.calls_run remote link

end Console

namespace Session

/-- A command line whose words and settings are in order carries out its command. -/
theorem step_eq_carryOut (session : Session) {s : SessionStep} {i : Invocation Operation}
    (resolved : Builtin.registry.resolve s.argv = .ok i) {settings : Settings}
    (usable : s.settings = .ok settings) :
    (session.step s).2 =
      let outcome := (Console.carryOut settings.location i).run s.remote (session.link s.mode)
      ⟨outcome.result, outcome.trace⟩ := by
  simp only [step, Console.run_of_usable resolved usable]

/-- **A command line that carries out a command** goes through the stages of the command, and ends
according to the first that fails. -/
theorem step_of_resolved (session : Session) {s : SessionStep} {i : Invocation Operation}
    (resolved : Builtin.registry.resolve s.argv = .ok i) {settings : Settings}
    (usable : s.settings = .ok settings) :
    let stages := (i.action.call settings.location).stages s.remote (session.link s.mode)
    let result := Failure.raised (Stage.firstFailure? stages)
    (session.step s).2 =
      ⟨Console.ending result, Console.runningNote settings.location i.command.name ::
        Stage.trace stages ++ Console.verdict i.command.name result⟩ := by
  intro stages result
  have ran := Console.run_eq_stages resolved usable s.remote (session.link s.mode)
  exact congrArg (fun outcome => RunReport.mk outcome.result outcome.trace) ran

end Session

end CatalogConsole
