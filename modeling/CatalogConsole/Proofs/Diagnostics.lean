import CatalogConsole.Proofs.EffectiveSettings
import CatalogConsole.Proofs.RunClassification

/-! # Log flags and diagnostics

A trace holds its notes whether or not the log writes them, and what a run does is in the trace before
the log is asked.  So to two launches that differ in their log flags the same happens, and with the
error stream erased they look the same (`Trace.withoutComplaints_seen`).

What is on the error stream is told apart by the level.  Every note of a run is a debugging message,
which only a verbose log writes.  A run that carries out a command sends its three notes before
anything can be seen of it, so a verbose launch shows them in one text in front of what another launch
shows (`Console.trace_of_unheld`).
-/
namespace CatalogConsole

/-! ## The error stream erased -/

/-- Text on the error stream. -/
def Event.isComplaint : Event → Bool
  | err _ => true
  | connect _ | call _ | fetch _ | out _ => false

/-- Events without those on the error stream; texts that become neighbours are put together. -/
def withoutComplaints (events : List Event) : List Event :=
  joined (events.filter fun e => !e.isComplaint)

@[simp] theorem withoutComplaints_nil : withoutComplaints [] = [] := rfl

theorem withoutComplaints_complaint {e : Event} (h : e.isComplaint = true) (rest : List Event) :
    withoutComplaints (e :: rest) = withoutComplaints rest := by
  simp [withoutComplaints, h]

theorem withoutComplaints_other {e : Event} (h : e.isComplaint = false) (rest : List Event) :
    withoutComplaints (e :: rest) = e.before (withoutComplaints rest) := by
  simp [withoutComplaints, h]

theorem withoutComplaints_append_complaints (texts : List String) (rest : List Event) :
    withoutComplaints (texts.map .err ++ rest) = withoutComplaints rest := by
  induction texts with
  | nil => rfl
  | cons text texts ih => rw [List.map_cons, List.cons_append, withoutComplaints_complaint rfl, ih]

/-- Two texts go in front of others as one. -/
theorem Event.before_before (s t : String) (rest : List Event) :
    (out s).before ((out t).before rest) = (out (s ++ t)).before rest := by
  match rest with
  | [] => rfl
  | out u :: rest => simp [before, String.append_assoc]
  | connect _ :: _ | call _ :: _ | fetch _ :: _ | err _ :: _ => rfl

/-- It does not matter whether texts have been put together before. -/
theorem withoutComplaints_before (e : Event) (rest : List Event) :
    withoutComplaints (e.before rest) = withoutComplaints (e :: rest) := by
  unfold Event.before
  split
  · rw [withoutComplaints_other rfl, withoutComplaints_other rfl, withoutComplaints_other rfl,
      Event.before_before]
  · rw [withoutComplaints_complaint rfl, withoutComplaints_complaint rfl,
      withoutComplaints_complaint rfl]
  · rfl

theorem withoutComplaints_joined (events : List Event) :
    withoutComplaints (joined events) = withoutComplaints events := by
  induction events with
  | nil => rfl
  | cons e rest ih =>
    rw [joined_cons, withoutComplaints_before]
    cases h : e.isComplaint with
    | true => rw [withoutComplaints_complaint h, withoutComplaints_complaint h, ih]
    | false => rw [withoutComplaints_other h, withoutComplaints_other h, ih]

namespace Trace
variable (log : Log)

/-- **With the error stream erased a trace looks the same in every log.** -/
theorem withoutComplaints_seen (trace : Trace) :
    withoutComplaints (trace.seen log) = withoutComplaints trace.events := by
  rw [seen, withoutComplaints_joined]
  induction trace with
  | nil => rfl
  | cons activity rest ih =>
    cases activity with
    | note r => rw [shown_note, withoutComplaints_append_complaints, ih, events_note]
    | event e =>
      rw [shown_event, events_event]
      cases h : e.isComplaint with
      | true => rw [withoutComplaints_complaint h, withoutComplaints_complaint h, ih]
      | false => rw [withoutComplaints_other h, withoutComplaints_other h, ih]

/-- A log above the levels of all records shows nothing but the events. -/
theorem shown_of_below {trace : Trace} (below : ∀ r ∈ trace.records, r.level.number < log.level) :
    trace.shown log = trace.events := by
  induction trace with
  | nil => rfl
  | cons activity rest ih =>
    cases activity with
    | event e => rw [shown_event, ih below, events_event]
    | note r =>
      rw [records_note] at below
      rw [shown_note, Log.written_of_below (below r List.mem_cons_self),
        ih fun r' hr' => below r' (List.mem_cons_of_mem _ hr'), events_note]
      rfl

/-- What follows an answer does not go through the log. -/
theorem Answers.records {trace : Trace} (h : trace.Answers) : trace.records = [] := by
  rw [Trace.records, List.filterMap_eq_nil_iff]
  intro activity hactivity
  obtain ⟨e, rfl, -⟩ := h activity hactivity
  rfl

end Trace

/-! ## The notes of a run -/

namespace Console

/-- All that a run sends to the log are debugging messages. -/
theorem debug_run (argv : List String) (given : Option Settings) (env : Environment)
    (remote : Remote) (link : Link) :
    ∀ r ∈ ((run argv given env).run remote link).trace.records, r.level = .debug := by
  rcases run_cases argv given env remote link with
    ⟨text, -, helped⟩ | ⟨code, text, -, stopped, -⟩ | ⟨i, settings, -, -, ran⟩
  · rw [helped]
    exact fun r hr => absurd hr List.not_mem_nil
  · rw [stopped]
    exact fun r hr => absurd hr List.not_mem_nil
  · rw [ran]
    exact (complaints_seen settings.location i.command.name (i.action.call settings.location) remote
      link _ (Log.setup {})).1

/-- **A run without a client** that carries out a command starts with its three notes and the
construction of the client, and sends nothing more to the log. -/
theorem trace_of_unheld {argv : List String} {given : Option Settings} {env : Environment}
    {i : Invocation Operation} (resolved : Builtin.registry.resolve argv = .ok i)
    {settings : Settings} (usable : given.elim (Settings.load env) .ok = .ok settings)
    (remote : Remote) (attempts : Nat) :
    ∃ rest : Trace, rest.records = [] ∧
      ((run argv given env).run remote ⟨false, attempts⟩).trace =
        runningNote settings.location i.command.name :: (i.action.call settings.location).note ::
          Service.connectNote :: .event (.connect attempts) :: rest := by
  let link : Link := ⟨false, attempts⟩
  let call := i.action.call settings.location
  let result := Failure.raised (Stage.firstFailure? (call.stages remote link))
  let called : Trace :=
    if (remote.connectFailure? link).isSome then [] else [.event (.call call)]
  let answer : Trace :=
    if (remote.refusal? link).isSome then [] else Stage.trace (call.replyStages remote.reply)
  refine ⟨called ++ answer ++ verdict i.command.name result, ?_, ?_⟩
  · have calledSilent : called.records = [] := by
      unfold called
      split <;> rfl
    have answerSilent : answer.records = [] := by
      unfold answer
      split
      · rfl
      · exact (call.answers_trace remote.reply).records
    rw [Trace.records_append, Trace.records_append, calledSilent, answerSilent, records_verdict]
    rfl
  · rw [run_eq_stages resolved usable, Call.trace_stages]
    simp only [Remote.requestTrace, Link.connectTrace, List.cons_append, List.append_assoc]
    rfl

/-- A run that carries out no command sends nothing to the log. -/
theorem records_of_stopped {argv : List String} {given : Option Settings} {env : Environment}
    (stopped : HelpIsAsked argv ∨ (∃ e, Builtin.registry.resolve argv = .error e) ∨
      ∃ e, given.elim (Settings.load env) .ok = .error e) (remote : Remote) (link : Link) :
    ((run argv given env).run remote link).trace.records = [] := by
  rcases run_cases argv given env remote link with
    ⟨text, -, helped⟩ | ⟨code, text, -, complained, -⟩ | ⟨i, settings, resolved, usable, -⟩
  · rw [helped]
    rfl
  · rw [complained]
    rfl
  · rcases stopped with asked | ⟨e, unresolved⟩ | ⟨e, unusable⟩
    · have silent := asksForHelp_of_resolved resolved
      rw [asksForHelp_iff.mpr asked] at silent
      cases silent
    · cases resolved.symm.trans unresolved
    · cases usable.symm.trans unusable

end Console

/-! ## The log of a launch -/

/-- The line of a debugging message: the level in a column of its own, the logger and the message. -/
def debugLine (logger message : String) : String :=
  "DEBUG    " ++ logger ++ ": " ++ message ++ "\n"

/-- The lines of the notes that come before the construction of a client: one for the command, one for
its call, and one for the client. -/
def startLines (place : Location) (name : String) (c : Call) : String :=
  debugLine "main" ("Running " ++ name ++ " in " ++ place.path) ++
    debugLine "product_search" (c.method ++ " " ++ c.resource) ++
    debugLine "product_search" "connect ProductSearchClient"

theorem LogRecord.line_debug {logger : String} (named : logger ≠ "") (message : String) :
    (⟨.debug, logger, message⟩ : LogRecord).line = debugLine logger message := by
  have column : String.ofList (LogLevel.debug.name.toList.rightpad 8 ' ') ++ " " = "DEBUG    " := by
    decide
  rw [line, loggerName, if_neg named, column, debugLine]

namespace Log
variable {flags : LogFlags}

/-- A verbose flag outweighs any other. -/
theorem levelFor_of_verbose (verbose : flags.verbose = true) :
    levelFor flags = LogLevel.debug.number := by
  rw [levelFor, if_pos verbose]

/-- Without a verbose flag debugging messages are dropped. -/
theorem debug_lt_levelFor (plain : flags.verbose = false) :
    LogLevel.debug.number < levelFor flags := by
  rw [levelFor, plain]
  cases flags.quiet <;> decide

/-- The level by the words: verbose ones outweigh quiet ones. -/
theorem level_of_words (words : List String) :
    let level := (setup (.ofWords words)).level
    let verbose := "-v" ∈ words ∨ "--verbose" ∈ words
    let quiet := "-q" ∈ words ∨ "--quiet" ∈ words
    (verbose → level = 10) ∧ (¬ verbose → quiet → level = 30) ∧
      (¬ verbose → ¬ quiet → level = 20) := by
  intro level verbose quiet
  have isLevel : level =
      if (LogFlags.ofWords words).verbose = true then 10
      else if (LogFlags.ofWords words).quiet = true then 30 else 20 := rfl
  have isVerbose : (LogFlags.ofWords words).verbose = true ↔ verbose := LogFlags.verbose_ofWords_iff
  have isQuiet : (LogFlags.ofWords words).quiet = true ↔ quiet := LogFlags.quiet_ofWords_iff
  rw [isLevel, ← isVerbose, ← isQuiet]
  exact ⟨fun loud => if_pos loud, fun plain hushed => by rw [if_neg plain, if_pos hushed],
    fun plain unhushed => by rw [if_neg plain, if_neg unhushed]⟩

/-- With a verbose flag a debugging message is a line. -/
theorem written_debug (verbose : flags.verbose = true) {logger : String} (named : logger ≠ "")
    (message : String) :
    (setup flags).written ⟨.debug, logger, message⟩ = [debugLine logger message] := by
  rw [written_setup, levelFor_of_verbose verbose, if_neg (Int.lt_irrefl _),
    LogRecord.line_debug named]

end Log

namespace Trace

/-- Where a log writes nothing, a reader sees the events. -/
theorem seen_of_below {log : Log} {trace : Trace}
    (below : ∀ r ∈ trace.records, r.level.number < log.level) : trace.seen log = joined trace.events := by
  rw [seen, shown_of_below log below]

/-- That is so in every log for a trace without records. -/
theorem seen_of_no_records {trace : Trace} (silent : trace.records = []) (log : Log) :
    trace.seen log = joined trace.events :=
  seen_of_below fun r hr => by rw [silent] at hr; cases hr

/-- Without a verbose flag it is so for debugging messages. -/
theorem seen_of_plain {trace : Trace} (debug : ∀ r ∈ trace.records, r.level = .debug)
    {flags : LogFlags} (plain : flags.verbose = false) :
    trace.seen (Log.setup flags) = joined trace.events :=
  seen_of_below fun r hr => by rw [debug r hr]; exact Log.debug_lt_levelFor plain

/-- Verbose logs show debugging messages alike, and so do logs that are not verbose. -/
theorem seen_of_alike {trace : Trace} (debug : ∀ r ∈ trace.records, r.level = .debug)
    {flags flags' : LogFlags} (alike : flags.verbose = flags'.verbose) :
    trace.seen (Log.setup flags) = trace.seen (Log.setup flags') := by
  cases loud : flags.verbose with
  | true =>
    have setups : Log.setup flags = Log.setup flags' := by
      rw [Log.setup, Log.setup, Log.levelFor_of_verbose loud,
        Log.levelFor_of_verbose (alike.symm.trans loud)]
    rw [setups]
  | false => rw [seen_of_plain debug loud, seen_of_plain debug (alike.symm.trans loud)]

end Trace

/-- **A verbose run shows the lines of its three notes** as one text, and then what else is shown,
which starts with the construction of a client. -/
theorem Console.seen_of_verbose {argv : List String} {given : Option Settings} {env : Environment}
    {i : Invocation Operation} (resolved : Builtin.registry.resolve argv = .ok i)
    {settings : Settings} (usable : given.elim (Settings.load env) .ok = .ok settings)
    (remote : Remote) (attempts : Nat) {flags : LogFlags} (verbose : flags.verbose = true) :
    let trace := ((run argv given env).run remote ⟨false, attempts⟩).trace
    (∃ rest, joined trace.events = .connect attempts :: rest) ∧
      trace.seen (Log.setup flags) =
        .err (startLines settings.location i.command.name (i.action.call settings.location)) ::
          joined trace.events := by
  intro trace
  obtain ⟨rest, silent, starts⟩ := trace_of_unheld resolved usable remote attempts
  have events : joined trace.events = .connect attempts :: joined rest.events := by
    rw [show trace = _ from starts]
    rfl
  have later : rest.shown (Log.setup flags) = rest.events :=
    Trace.shown_of_below _ fun r hr => by rw [silent] at hr; cases hr
  refine ⟨⟨_, events⟩, ?_⟩
  rw [events, Trace.seen, show trace = _ from starts, runningNote, Call.note, Service.connectNote,
    Trace.shown_note, Trace.shown_note, Trace.shown_note, Trace.shown_event, later,
    Log.written_debug verbose (show logger ≠ "" by decide),
    Log.written_debug verbose (show Service.logger ≠ "" by decide),
    Log.written_debug verbose (show Service.logger ≠ "" by decide)]
  simp only [List.map_cons, List.map_nil, List.cons_append, List.nil_append, joined_cons,
    Event.before, startLines, String.append_assoc]
  rfl

/-- **A launch behind log flags** is a run of the rest, seen through the log that the flags ask for. -/
theorem launch_of_flags {loader : Loader} {env completed : Environment} {defaults : String}
    {flags words : List String}
    (areFlags : ∀ word ∈ flags, word ∈ ["-v", "--verbose", "-q", "--quiet"])
    (others : ∀ word ∈ words.head?, word ∉ ["-v", "--verbose", "-q", "--quiet"])
    (loads : loader.complete env defaults = .ok completed) (remote : Remote) :
    launch loader (flags ++ words) env defaults remote =
      let outcome := (Console.run words none completed).run remote {}
      ⟨outcome.result, outcome.trace, Log.setup (.ofWords flags)⟩ := by
  have divided : LogFlags.split (flags ++ words) = (.ofWords flags, words) := by
    refine LogFlags.split_append (fun word hword => LogFlags.isFlag_iff.mpr (areFlags word hword))
      fun word hword => ?_
    rw [← Bool.not_eq_true, LogFlags.isFlag_iff]
    exact others word hword
  rw [launch_of_completed loads, divided]

/-- **Log flags bear on diagnostics only**, with any loader.  Two launches that differ in their log flags
end alike, and look alike with the error stream erased.  Where the environment can be completed, the level
is that of debugging messages if a flag is verbose, else that of warnings if one is quiet, and else that of
information.  Verbose launches look alike, and so do launches that are not verbose.  A verbose launch
shows what another one shows, behind three lines of diagnostics if it carries out a command, which
stand in front of the construction of its client.  Where the environment cannot be completed, no flag
is read: the launch does nothing, and the log is as it was.  With a loader that does what is documented
that is so if it is not turned off and a variable cannot hold the value that it gets. -/
theorem log_flags_affect_diagnostics_only (loader : Loader) (env : Environment) (defaults : String)
    (remote : Remote) (flags flags' words : List String)
    (areFlags : ∀ word ∈ flags, word ∈ ["-v", "--verbose", "-q", "--quiet"])
    (areFlags' : ∀ word ∈ flags', word ∈ ["-v", "--verbose", "-q", "--quiet"])
    (others : ∀ word ∈ words.head?, word ∉ ["-v", "--verbose", "-q", "--quiet"]) :
    let first := launch loader (flags ++ words) env defaults remote
    let second := launch loader (flags' ++ words) env defaults remote
    let verbose (flags : List String) := "-v" ∈ flags ∨ "--verbose" ∈ flags
    let quiet (flags : List String) := "-q" ∈ flags ∨ "--quiet" ∈ flags
    first.ending = second.ending ∧
    withoutComplaints first.events = withoutComplaints second.events ∧
    (∀ e, loader.complete env defaults = .error e →
      first.ending = .error (.fault .value (.text e.message)) ∧ first.events = [] ∧
        first.log.level = 30) ∧
    (∀ completed, loader.complete env defaults = .ok completed →
      (verbose flags → first.log.level = 10) ∧
      (¬ verbose flags → quiet flags → first.log.level = 30) ∧
      (¬ verbose flags → ¬ quiet flags → first.log.level = 20)) ∧
    ((verbose flags ↔ verbose flags') → first.events = second.events) ∧
    (verbose flags → ¬ verbose flags' →
      ∀ completed, loader.complete env defaults = .ok completed →
      (Console.HelpIsAsked words ∨ (∃ e, Builtin.registry.resolve words = .error e) ∨
        (∃ e, Settings.load completed = .error e) →
        first.events = second.events) ∧
      ∀ i settings, Builtin.registry.resolve words = .ok i → Settings.load completed = .ok settings →
        first.events = .err (startLines settings.location i.command.name
          (i.action.call settings.location)) :: second.events ∧
        ∃ rest, second.events = .connect 0 :: rest) ∧
    (loader.Documented → ((∃ e, loader.complete env defaults = .error e) ↔
      loader.isOff env = false ∧ ∃ name value e, env name = none ∧
        Assignment.lastValue? (loader.assignments env defaults) name = some value ∧
        VariableError.of? name value = some e)) := by
  intro first second verbose quiet
  cases complete : loader.complete env defaults with
  | error e =>
    have stopped : first = _ := launch_of_fault complete remote
    have stopped' : second = _ := launch_of_fault complete remote
    rw [stopped, stopped']
    refine ⟨rfl, rfl, ?_, fun _ loads => (nomatch loads), fun _ => rfl,
      fun _ _ _ loads => (nomatch loads), fun documented => ?_⟩
    · rintro _ ⟨⟩
      exact ⟨rfl, rfl, rfl⟩
    · rw [← complete]
      exact documented.fails_iff
  | ok completed =>
    let outcome := (Console.run words none completed).run remote {}
    have ran : first = ⟨outcome.result, outcome.trace, Log.setup (.ofWords flags)⟩ :=
      launch_of_flags areFlags others complete remote
    have ran' : second = ⟨outcome.result, outcome.trace, Log.setup (.ofWords flags')⟩ :=
      launch_of_flags areFlags' others complete remote
    have debug : ∀ r ∈ outcome.trace.records, r.level = .debug :=
      Console.debug_run words none _ remote {}
    have isVerbose (flags : List String) : (LogFlags.ofWords flags).verbose = true ↔ verbose flags :=
      LogFlags.verbose_ofWords_iff
    have isPlain {flags : List String} (plain : ¬ verbose flags) :
        (LogFlags.ofWords flags).verbose = false := by
      rwa [← isVerbose, Bool.not_eq_true] at plain
    rw [ran, ran']
    refine ⟨rfl, ?_, fun e h => (nomatch h), fun _ _ => Log.level_of_words flags, ?_, ?_,
      fun documented => complete ▸ documented.fails_iff⟩
    · exact (outcome.trace.withoutComplaints_seen _).trans (outcome.trace.withoutComplaints_seen _).symm
    · intro alike
      refine Trace.seen_of_alike debug (Bool.eq_iff_iff.mpr ?_)
      rw [isVerbose, isVerbose]
      exact alike
    · rintro loud plain _ ⟨⟩
      have events : outcome.trace.seen (Log.setup (.ofWords flags')) = joined outcome.trace.events :=
        Trace.seen_of_plain debug (isPlain plain)
      refine ⟨fun stopped => ?_, fun i settings resolved usable => ?_⟩
      · have silent : outcome.trace.records = [] := Console.records_of_stopped stopped remote {}
        exact (Trace.seen_of_no_records silent _).trans events.symm
      · have loaded : (none : Option Settings).elim (Settings.load completed) .ok =
            .ok settings := usable
        obtain ⟨connects, shown⟩ :=
          Console.seen_of_verbose resolved loaded remote 0 ((isVerbose flags).mpr loud)
        refine ⟨shown.trans (congrArg _ events.symm), ?_⟩
        obtain ⟨rest, starts⟩ := connects
        exact ⟨rest, events.trans starts⟩

/-- A verbose and a quiet flag together show the three lines, the quiet one alone shows none, and the
region comes from the defaults. -/
theorem verbose_flag_outweighs_quiet_flag :
    let env := Environment.ofList [("PROJECT_ID", "shop")]
    let words := ["get_product_set", "shoes"]
    let first := launch .lineReader (["-q", "--verbose"] ++ words) env "REGION_NAME=east" {}
    let second := launch .lineReader (["--quiet"] ++ words) env "REGION_NAME=east" {}
    first.ending = second.ending ∧ first.log.level = 10 ∧ second.log.level = 30 ∧
      first.events = .err (
        "DEBUG    main: Running get_product_set in projects/shop/locations/east\n" ++
        "DEBUG    product_search: get_product_set projects/shop/locations/east/productSets/shoes\n" ++
        "DEBUG    product_search: connect ProductSearchClient\n") :: second.events := by
  intro env words first second
  have builtin : Builtin.getProductSet ∈ Builtin.commands := by simp [Builtin.commands]
  have resolved : Builtin.registry.resolve words = .ok ⟨Builtin.getProductSet, ["shoes"], rfl⟩ :=
    Builtin.resolve_name builtin ["shoes"] rfl
  have loads : Loader.lineReader.complete env "REGION_NAME=east" =
      .ok (env.completed (Assignment.ofText "REGION_NAME=east")) := by rfl
  have usable : Settings.load (env.completed (Assignment.ofText "REGION_NAME=east")) =
      .ok ⟨"shop", "east"⟩ := by rfl
  obtain ⟨ends, -, -, levels, -, behind, -⟩ := log_flags_affect_diagnostics_only .lineReader env
    "REGION_NAME=east" {} ["-q", "--verbose"] ["--quiet"] words (by decide) (by decide) (by decide)
  obtain ⟨-, -, -, levels', -, -⟩ := log_flags_affect_diagnostics_only .lineReader env
    "REGION_NAME=east" {} ["--quiet"] [] words (by decide) (by decide) (by decide)
  obtain ⟨shown, -⟩ := (behind (by decide) (by decide) _ loads).2 _ _ resolved usable
  refine ⟨ends, (levels _ loads).1 (by decide), (levels' _ loads).2.1 (by decide) (by decide), ?_⟩
  rw [show first.events = _ from shown]
  rfl

/-- **Where a default cannot be held by a variable, no flag is read**: the level stays that of warnings,
though it is that of information in other launches without flags. -/
theorem nul_default_keeps_level :
    let report := launch .lineReader ["help"] (.ofList []) "OTHER=\x00\n" {}
    report.ending = .error (.fault .value (.text "embedded null byte")) ∧ report.events = [] ∧
      report.log.level = 30 ∧ report.log.level ≠ 20 ∧
      (launch .lineReader ["help"] (.ofList []) "OTHER=\n" {}).log.level = 20 := by
  have faulty : (Environment.ofList []).fault? (Assignment.ofText "OTHER=\x00\n") =
      some .nulCharacter := by decide
  have fault : Loader.lineReader.complete (.ofList []) "OTHER=\x00\n" = .error .nulCharacter := by
    simp only [Loader.lineReader, faulty]
    rfl
  intro report
  have stopped : report = _ := launch_of_fault fault {}
  rw [stopped]
  exact ⟨rfl, rfl, rfl, by decide, rfl⟩

end CatalogConsole
