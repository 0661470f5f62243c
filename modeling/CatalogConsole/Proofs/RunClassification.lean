import CatalogConsole.Proofs.ConsoleRun

/-! # How a command that is carried out ends

Once the words and the settings of a command line are in order, its ending depends on the first
failure among the stages of its command and on nothing else.  Without a failure it succeeds.  A
failure that is reported gives exit code 1 and one line on the error stream.  Any other failure is
let through as it was raised, or as the reason why there is nothing to report, and nothing is said about
it.  In no case is there anything else on the error stream than what the log writes for debugging
messages (`run_classified`).

The reason for the last is that a stage is discreet: of itself it writes nothing on the error
stream, and its notes are debugging messages.

Not every failed call is reported.  One with neither a description nor a code has no text, and neither
has one whose code has too many digits (`failed_calls_without_report`).
-/
namespace CatalogConsole

/-- An activity that puts nothing on the error stream but debugging messages through the log. -/
def Activity.Discreet : Activity → Prop
  | event e => e.textFor .error = none
  | note r => r.level = .debug

namespace Trace

/-- Nothing but debugging messages. -/
def Discreet (trace : Trace) : Prop := ∀ activity ∈ trace, activity.Discreet

theorem Discreet.quiet {trace : Trace} (h : trace.Discreet) :
    trace.view (·.textFor .error) = [] := by
  induction trace with
  | nil => rfl
  | cons activity rest ih =>
    have later := ih fun a ha => h a (List.mem_cons_of_mem _ ha)
    have now := h activity List.mem_cons_self
    cases activity with
    | event e => rw [view_event, later, show e.textFor .error = none from now]; rfl
    | note r => rw [view_note, later]

theorem Discreet.debug {trace : Trace} (h : trace.Discreet) :
    ∀ r ∈ trace.records, r.level = .debug := by
  intro r hr
  obtain ⟨activity, hactivity, found⟩ := List.mem_filterMap.mp hr
  cases activity with
  | event e => cases found
  | note r' =>
    cases found
    exact h _ hactivity

theorem Discreet.append {first second : Trace} (h : first.Discreet) (h' : second.Discreet) :
    (first ++ second).Discreet := by
  intro activity hactivity
  exact (List.mem_append.mp hactivity).elim (h activity) (h' activity)

end Trace

/-- What follows an answer is not on the error stream. -/
theorem Trace.Answers.discreet {trace : Trace} (h : trace.Answers) : trace.Discreet := by
  intro activity hactivity
  obtain ⟨e, rfl, answers⟩ := h activity hactivity
  cases e with
  | fetch index | out text => rfl
  | connect n | call c | err text => cases answers

namespace Call

theorem discreet_requestTrace (c : Call) (remote : Remote) (link : Link) :
    (remote.requestTrace link c).Discreet := by
  intro activity hactivity
  simp only [Remote.requestTrace, Link.connectTrace, Service.connectNote, note, List.mem_append,
    List.mem_cons] at hactivity
  rcases hactivity with (rfl | connected) | called
  · rfl
  · split at connected
    · cases connected
    · simp only [List.mem_cons, List.not_mem_nil, or_false] at connected
      rcases connected with rfl | rfl <;> rfl
  · split at called
    · cases called
    · rw [List.mem_singleton.mp called]
      rfl

/-- A command of itself puts nothing on the error stream. -/
theorem discreet_stages (c : Call) (remote : Remote) (link : Link) :
    (Stage.trace (c.stages remote link)).Discreet := by
  rw [trace_stages]
  refine (c.discreet_requestTrace remote link).append ?_
  split
  · intro activity hactivity
    cases hactivity
  · exact (c.answers_trace remote.reply).discreet

end Call

/-- **What is on the error stream** of a command and what is said about it: the debugging messages
that the log writes, and what is said. -/
theorem Console.complaints_seen (place : Location) (name : String) (c : Call) (remote : Remote)
    (link : Link) (result : Except Failure Unit) (log : Log) :
    let trace : Trace :=
      runningNote place name :: Stage.trace (c.stages remote link) ++ verdict name result
    (∀ r ∈ trace.records, r.level = .debug) ∧
      textOn .error (trace.seen log) = Trace.logged log trace.records ++
        textOn .error (Trace.shown log (verdict name result)) := by
  intro trace
  have discreet :
      Trace.Discreet (runningNote place name :: Stage.trace (c.stages remote link)) := by
    intro activity hactivity
    rcases List.mem_cons.mp hactivity with rfl | later
    · rfl
    · exact c.discreet_stages remote link activity later
  have records : trace.records =
      Trace.records (runningNote place name :: Stage.trace (c.stages remote link)) := by
    rw [Trace.records_append, records_verdict, List.append_nil]
  rw [records]
  refine ⟨discreet.debug, ?_⟩
  rw [Trace.seen, textOn_joined, Trace.shown_append, textOn_append,
    Trace.complaints_shown log discreet.quiet]

/-- **Every command that is carried out ends according to the first failure among its stages.**  It has
exit code 0 without one, and exit code 1 if the failure is reported; then there is one line about it,
which ends in the text of the failed call that it is.  Of any other failure nothing is said, and what
leaves in its place is a fault. -/
theorem run_classified (session : Session) (s : SessionStep) (log : Log)
    {i : Invocation Operation} (resolved : Builtin.registry.resolve s.argv = .ok i)
    {settings : Settings} (usable : s.settings = .ok settings) :
    let report := (session.step s).2
    let first := Stage.firstFailure?
      ((i.action.call settings.location).stages s.remote (session.link s.mode))
    let complaints := textOn .error (report.trace.seen log)
    let diagnostics := Trace.logged log report.trace.records
    Builtin.registry.lookup i.command.name = some i.command ∧
    (∀ r ∈ report.trace.records, r.level = .debug) ∧
    (report.ending = .ok .success ↔ first = none) ∧
    (report.ending = .ok .failure ↔ ∃ f, first = some f ∧ f.Reported) ∧
    (first = none → complaints = diagnostics) ∧
    (∀ f, first = some f → f.Reported → ∃ c text, f.normalized = .call c ∧ c.text = .ok text ∧
      complaints =
        diagnostics ++ ("Error executing " ++ i.command.name ++ ": " ++ text ++ "\n")) ∧
    (∀ f, first = some f → ¬ f.Reported → complaints = diagnostics ∧
      ∃ g kind, report.ending = .error g ∧ f.LeavesAs g ∧ g.kind? = some kind) := by
  intro report first complaints diagnostics
  have step := session.step_of_resolved resolved usable
  have ended : report.ending = Console.ending (Failure.raised first) :=
    congrArg RunReport.ending step
  have traced : report.trace = Console.runningNote settings.location i.command.name ::
      Stage.trace ((i.action.call settings.location).stages s.remote (session.link s.mode)) ++
        Console.verdict i.command.name (Failure.raised first) := congrArg RunReport.trace step
  obtain ⟨debug, seen⟩ := Console.complaints_seen settings.location i.command.name
    (i.action.call settings.location) s.remote (session.link s.mode) (Failure.raised first) log
  rw [← traced] at debug seen
  -- what is left is to see what the console makes of the first failure
  change complaints = diagnostics ++
    textOn .error (Trace.shown log (Console.verdict i.command.name (Failure.raised first))) at seen
  refine ⟨Builtin.registered_of_resolved resolved, debug, ?_⟩
  cases found : first with
  | none =>
    rw [found] at ended
    have said : complaints = diagnostics := by
      rw [found] at seen
      simpa [Console.verdict] using seen
    simp [ended, said, Console.ending]
  | some f =>
    rw [found] at ended seen
    obtain ⟨told, letThrough⟩ := Console.told_or_let_through i.command.name f
    by_cases reported : f.Reported
    · obtain ⟨text, isReport⟩ := (Failure.reported_iff f).mp reported
      obtain ⟨line, failure⟩ := told text isReport
      obtain ⟨c, becomes, shown⟩ := Failure.call_of_report isReport
      rw [failure] at ended
      have said : complaints = diagnostics ++
          ("Error executing " ++ i.command.name ++ ": " ++ text ++ "\n") := by
        rw [line] at seen
        simpa [Console.failureLine, Trace.shown_event, Event.textFor] using seen
      simp [ended, said, reported, becomes, shown]
    · obtain ⟨g, isLeft, leaves⟩ := Failure.exists_leavesAs reported
      obtain ⟨kind, isFault⟩ := Failure.kind?_of_report isLeft
      obtain ⟨silent, failure⟩ := letThrough g isLeft
      rw [failure] at ended
      have said : complaints = diagnostics := by
        rw [silent] at seen
        simpa using seen
      refine ⟨by simp [ended], by simp [ended, reported], by simp, by simp [reported], ?_⟩
      rintro _ ⟨⟩ -
      exact ⟨said, g, kind, ended, leaves, isFault⟩

/-- A listing that breaks off after its first element ends with exit code 1 and one line. -/
theorem broken_listing_classified :
    let remote : Remote :=
      { reply :=
          { productSets :=
              [.ok { name := "sets/a" }, .error (.library (.api .notFound (some "gone") none))] } }
    let s : SessionStep := ⟨["list_product_sets"], some ⟨"shop", "east"⟩, .ofList [], .own, remote⟩
    let report := (Session.step {} s).2
    Builtin.registry.resolve s.argv = .ok ⟨Builtin.listProductSets, [], rfl⟩ ∧
      s.settings = .ok ⟨"shop", "east"⟩ ∧ report.ending = .ok .failure ∧
      textOn .error (report.trace.seen (Log.setup {})) =
        "Error executing list_product_sets: 404 gone\n" := by
  intro remote s report
  have lists : Builtin.listProductSets ∈ Builtin.commands := by simp [Builtin.commands]
  have resolved : Builtin.registry.resolve s.argv = .ok ⟨Builtin.listProductSets, [], rfl⟩ :=
    Builtin.resolve_name lists [] rfl
  have reported : (Failure.library (.api .notFound (some "gone") none)).Reported := by
    refine ⟨"gone", rfl, ?_, ?_⟩
    · rintro ⟨_, infinite⟩
      cases infinite
    · rintro _ ⟨⟩
      decide
  have usable : s.settings = .ok ⟨"shop", "east"⟩ := rfl
  obtain ⟨-, debug, -, failed, -, said, -⟩ := run_classified {} s (Log.setup {}) resolved usable
  obtain ⟨c, text, becomes, isText, line⟩ := said _ rfl reported
  refine ⟨resolved, usable, failed.mpr ⟨_, rfl, reported⟩, ?_⟩
  have silent : Trace.logged (Log.setup {}) report.trace.records = "" :=
    Trace.logged_of_below _ fun r hr => by rw [debug r hr]; decide
  cases becomes
  cases isText
  rw [line, silent]
  decide

/-- **Failed calls that are not reported**: one without description and code, and one whose code has too
many digits.  The first leaves as a value of the wrong type and the second as one that is not
acceptable, with nothing on the error stream. -/
theorem failed_calls_without_report :
    let ending (c : CallError) :=
      let s : SessionStep := ⟨["delete_product_set", "x"], some ⟨"shop", "east"⟩, .ofList [], .given,
        { reply := { failure := some (.call c) } }⟩
      ((Session.step {} s).2.ending, textOn .error ((Session.step {} s).2.trace.seen (Log.setup {})))
    ending ⟨none, none⟩ = (.error (.conversion .textless), "") ∧
      ending ⟨some "gone", some Numeral.firstLong⟩ = (.error (.conversion .unprintable), "") ∧
      ConversionError.textless.kind = .type ∧ ConversionError.unprintable.kind = .value := by
  intro ending
  have deletes : Builtin.deleteProductSet ∈ Builtin.commands := by simp [Builtin.commands]
  -- whatever leaves in place of the failed call, nothing is said about it
  have silent (c : CallError) (g : Failure) (isLeft : (Failure.call c).report = .error g) :
      ending c = (.error g, "") := by
    let s : SessionStep := ⟨["delete_product_set", "x"], some ⟨"shop", "east"⟩, .ofList [], .given,
      { reply := { failure := some (.call c) } }⟩
    have resolved : Builtin.registry.resolve s.argv = .ok ⟨Builtin.deleteProductSet, ["x"], rfl⟩ :=
      Builtin.resolve_name deletes ["x"] rfl
    have usable : s.settings = .ok ⟨"shop", "east"⟩ := rfl
    have refused : s.remote.refusal? (Session.link {} s.mode) = some (.call c) := rfl
    have asked (call : Call) :
        s.remote.requestTrace (Session.link {} s.mode) call = [call.note, .event (.call call)] := rfl
    obtain ⟨unsaid, ends⟩ :=
      (Console.told_or_let_through Builtin.deleteProductSet.name (.call c)).2 g isLeft
    have stepped := Session.step_of_resolved {} resolved usable
    simp only [Call.firstFailure?_stages, Call.trace_stages, refused, asked, Option.some_or,
      Option.isSome_some, if_true, List.append_nil, ends, unsaid] at stepped
    change ((Session.step {} s).2.ending, textOn .error ((Session.step {} s).2.trace.seen _)) = _
    rw [stepped]
    have quiet : textOn .error (Trace.seen (Log.setup {})
        [Console.runningNote ⟨"shop", "east"⟩ Builtin.deleteProductSet.name,
          (Call.deleteProductSet (Location.productSetPath ⟨"shop", "east"⟩ "x")).note,
          .event (.call (.deleteProductSet (Location.productSetPath ⟨"shop", "east"⟩ "x")))]) = "" := by
      decide +kernel
    exact Prod.ext rfl quiet
  have nothing : ¬ (⟨none, none⟩ : CallError).HasText := fun told => told.1 rfl rfl
  have tooLong : ¬ (⟨some "gone", some Numeral.firstLong⟩ : CallError).HasText :=
    fun told => Numeral.not_printable_firstLong (told.2 _ rfl)
  exact ⟨silent _ _ ((Failure.report_call_of_untold nothing).1 rfl),
    silent _ _ ((Failure.report_call_of_untold tooLong).2 (Option.some_ne_none _)), rfl, rfl⟩

end CatalogConsole
