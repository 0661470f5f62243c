import CatalogConsole.Proofs.ConsoleRun

/-! # The gates before a command

Before a command is carried out, its command line passes three gates, always in the same order: a
request for help is answered, words that make no sense are complained about, and so are settings that
are not there.  A command line that is stopped at a gate has done nothing but say so: the link to the
service is as it was, and the log has been given nothing.

The first two gates look at the words alone, so what happens there is the same in every environment.
A command line that passes all three ends in one of the ways of `Console.ending`, none of which is
exit code 2, so that code always means words that make no sense (`gates_in_order`).
-/
namespace CatalogConsole

/-- **The words ask for help** if the first of them does, in upper or lower case, whatever follows. -/
def Console.HelpIsAsked (argv : List String) : Prop :=
  ∃ word rest, argv = word :: rest ∧ Text.lowercase word ∈ ["help", "-h", "--help"]

/-- **A variable is of no use** if it is missing or empty. -/
def Environment.Lacks (env : Environment) (name : String) : Prop :=
  env name = none ∨ env name = some ""

/-! ## The settings -/

namespace Settings

variable {env : Environment} {name : String}

/-- A variable that is of no use is reported. -/
theorem required_of_lacks (lacks : env.Lacks name) :
    required env name = .error (.missingVariable name) := by
  rcases lacks with missing | empty
  · simp only [required, missing]
  · simp only [required, empty, if_true]

/-- Any other has its value. -/
theorem required_of_has (has : ¬ env.Lacks name) :
    ∃ value, required env name = .ok value := by
  cases found : env name with
  | none => exact absurd (Or.inl found) has
  | some value =>
    have nonempty : value ≠ "" := by
      rintro rfl
      exact has (.inr found)
    exact ⟨value, by simp only [required, found, if_neg nonempty]⟩

/-- The project is asked for first. -/
theorem load_of_no_project (lacks : env.Lacks projectVariable) :
    load env = .error (.missingVariable projectVariable) := by
  rw [load, required_of_lacks lacks]
  rfl

theorem load_of_no_region (has : ¬ env.Lacks projectVariable) (lacks : env.Lacks regionVariable) :
    load env = .error (.missingVariable regionVariable) := by
  obtain ⟨project, found⟩ := required_of_has has
  rw [load, found, required_of_lacks lacks]
  rfl

/-- With both there are settings. -/
theorem load_of_both (hasProject : ¬ env.Lacks projectVariable)
    (hasRegion : ¬ env.Lacks regionVariable) : ∃ settings, load env = .ok settings := by
  obtain ⟨project, found⟩ := required_of_has hasProject
  obtain ⟨region, found'⟩ := required_of_has hasRegion
  exact ⟨⟨project, region⟩, by rw [load, found, found']; rfl⟩

end Settings

/-! ## What happens at the gates -/

namespace Console

variable {argv : List String} {given : Option Settings} {env : Environment}

theorem asksForHelp_iff : asksForHelp argv = true ↔ HelpIsAsked argv := by
  cases argv with
  | nil =>
    constructor
    · intro asks
      cases asks
    · rintro ⟨word, rest, eq, -⟩
      cases eq
  | cons word rest =>
    rw [asksForHelp, List.contains_iff_mem]
    constructor
    · intro asks
      exact ⟨word, rest, rfl, asks⟩
    · rintro ⟨word', rest', eq, asks⟩
      cases eq
      exact asks

theorem asksForHelp_eq_false (silent : ¬ HelpIsAsked argv) : asksForHelp argv = false := by
  rw [← asksForHelp_iff] at silent
  exact Bool.eq_false_iff.mpr silent

variable (remote : Remote) (link : Link)

/-- To say one thing and to end leaves the link alone. -/
theorem run_perform_return (e : Event) (code : ExitCode) :
    (Action.perform e >>= fun _ => (return code : Action ExitCode)).run remote link =
      ⟨.ok code, link, [.event e]⟩ := rfl

/-- At the first gate help is given. -/
theorem outcome_of_help (asked : HelpIsAsked argv) :
    (run argv given env).run remote link =
      ⟨.ok .success, link, [.event (.out (Builtin.registry.helpText ++ "\n"))]⟩ := by
  rw [run_of_help (asksForHelp_iff.mpr asked), Action.say, run_perform_return]
  simp only [textOfLines_cons, textOfLines_nil, String.append_empty]

/-- At the second gate there is a complaint about the words. -/
theorem outcome_of_unresolved (silent : ¬ HelpIsAsked argv) {e : UsageError}
    (unresolved : Builtin.registry.resolve argv = .error e) :
    (run argv given env).run remote link =
      ⟨.ok .usage, link, [.event (.err
        ("Usage error: " ++ e.message ++ "\n" ++ Builtin.registry.helpText ++ "\n"))]⟩ := by
  rw [run_of_unresolved (asksForHelp_eq_false silent) unresolved, Action.complain,
    run_perform_return]
  simp only [textOfLines_cons, textOfLines_nil, String.append_empty, String.append_assoc]

/-- At the third gate there is a complaint about the settings. -/
theorem outcome_of_unusable {i : Invocation Operation}
    (resolved : Builtin.registry.resolve argv = .ok i) {name : String}
    (unusable : Settings.load env = .error (.missingVariable name)) :
    (run argv none env).run remote link =
      ⟨.ok .failure, link, [.event (.err
        ("Configuration error: Missing required environment variable: " ++ name ++ "\n"))]⟩ := by
  have refused : (none : Option Settings).elim (Settings.load env) .ok =
      .error (.missingVariable name) := unusable
  rw [run_of_unusable resolved refused, Action.complain, run_perform_return,
    ConfigError.message_missingVariable]
  simp only [textOfLines_cons, textOfLines_nil, String.append_empty, ← String.append_assoc,
    String.reduceAppend]

/-- Behind the gates a command is carried out.  It does not end with exit code 2. -/
theorem outcome_of_usable {i : Invocation Operation}
    (resolved : Builtin.registry.resolve argv = .ok i) {settings : Settings}
    (usable : given.elim (Settings.load env) .ok = .ok settings) :
    let outcome := (run argv given env).run remote link
    outcome.result ≠ .ok .usage ∧
      ∃ rest, outcome.trace = runningNote settings.location i.command.name :: rest := by
  intro outcome
  have carried : outcome = _ := run_eq_stages resolved usable remote link
  rw [carried]
  exact ⟨(ending_raised _).2, _, rfl⟩

/-- **A run gives help, or complains, or carries out a command.**  In the first two cases it says one
thing and does nothing else. -/
theorem run_cases (argv : List String) (given : Option Settings) (env : Environment)
    (remote : Remote) (link : Link) :
    let outcome := (run argv given env).run remote link
    (∃ text, HelpIsAsked argv ∧ outcome = ⟨.ok .success, link, [.event (.out text)]⟩) ∨
    (∃ code text, code ≠ .success ∧ outcome = ⟨.ok code, link, [.event (.err text)]⟩ ∧
      ((∃ e, Builtin.registry.resolve argv = .error e) ∨
        ∃ e, given.elim (Settings.load env) .ok = .error e)) ∨
    ∃ i settings, Builtin.registry.resolve argv = .ok i ∧
      given.elim (Settings.load env) .ok = .ok settings ∧
      let stages := (i.action.call settings.location).stages remote link
      let result := Failure.raised (Stage.firstFailure? stages)
      outcome = ⟨ending result, remote.linkAfter link,
        runningNote settings.location i.command.name ::
          Stage.trace stages ++ verdict i.command.name result⟩ := by
  intro outcome
  by_cases asked : HelpIsAsked argv
  · exact .inl ⟨_, asked, outcome_of_help remote link asked⟩
  cases resolved : Builtin.registry.resolve argv with
  | error e =>
    have stopped : outcome = _ := outcome_of_unresolved remote link asked resolved
    exact .inr (.inl ⟨_, _, by decide, stopped, .inl ⟨e, rfl⟩⟩)
  | ok i =>
    cases usable : given.elim (Settings.load env) .ok with
    | error e =>
      have stopped : outcome = _ :=
        congrArg (fun action => action.run remote link) (run_of_unusable resolved usable)
      exact .inr (.inl ⟨_, _, by decide, stopped, .inr ⟨e, rfl⟩⟩)
    | ok settings =>
      exact .inr (.inr ⟨i, settings, rfl, rfl, run_eq_stages resolved usable remote link⟩)

end Console

/-- **The gates are passed in order.**  Help comes before the words, the words before the settings, and
among the settings the project before the region.  Who is stopped at a gate has left the link alone
and is told so in one text, and nothing else can be seen or is sent to the log.  Who is stopped at
one of the first two is stopped there with the same text whatever the settings, the environment, the
service and the remote side.  Exit code 2 means that the words make no sense, and nothing else. -/
theorem gates_in_order (argv : List String) (given : Option Settings) (env : Environment)
    (remote : Remote) (link : Link) :
    let outcome := (Console.run argv given env).run remote link
    let words := Builtin.registry.resolve argv
    let help := Builtin.registry.helpText
    let asked := Console.HelpIsAsked argv
    (asked → outcome = ⟨.ok .success, link, [.event (.out (help ++ "\n"))]⟩) ∧
    (∀ e, ¬ asked → words = .error e →
      outcome = ⟨.ok .usage, link,
        [.event (.err ("Usage error: " ++ e.message ++ "\n" ++ help ++ "\n"))]⟩) ∧
    (∀ i name, ¬ asked → words = .ok i → given = none →
      (name = "PROJECT_ID" ∧ env.Lacks "PROJECT_ID" ∨
        name = "REGION_NAME" ∧ ¬ env.Lacks "PROJECT_ID" ∧ env.Lacks "REGION_NAME") →
      outcome = ⟨.ok .failure, link, [.event (.err
        ("Configuration error: Missing required environment variable: " ++ name ++ "\n"))]⟩) ∧
    (∀ i, ¬ asked → words = .ok i →
      (given = none → ¬ env.Lacks "PROJECT_ID" ∧ ¬ env.Lacks "REGION_NAME") →
      ∃ place rest, outcome.trace = Console.runningNote place i.command.name :: rest) ∧
    (asked ∨ (∃ e, words = .error e) → ∀ given' env' remote' link',
      (Console.run argv given' env').run remote' link' = ⟨outcome.result, link', outcome.trace⟩) ∧
    (outcome.result = .ok .usage ↔ ¬ asked ∧ ∃ e, words = .error e) := by
  intro outcome words help asked
  have passed : ∀ i, words = .ok i →
      (given = none → ¬ env.Lacks "PROJECT_ID" ∧ ¬ env.Lacks "REGION_NAME") →
      ∃ settings, given.elim (Settings.load env) .ok = .ok settings := by
    intro i resolved both
    cases given with
    | some settings => exact ⟨settings, rfl⟩
    | none =>
      obtain ⟨hasProject, hasRegion⟩ := both rfl
      exact Settings.load_of_both hasProject hasRegion
  refine ⟨Console.outcome_of_help remote link,
    fun e silent unresolved => Console.outcome_of_unresolved remote link silent unresolved,
    ?_, ?_, ?_, ?_⟩
  · rintro i name - resolved rfl (⟨rfl, lacks⟩ | ⟨rfl, has, lacks⟩)
    · exact Console.outcome_of_unusable remote link resolved (Settings.load_of_no_project lacks)
    · exact Console.outcome_of_unusable remote link resolved (Settings.load_of_no_region has lacks)
  · intro i _ resolved both
    obtain ⟨settings, usable⟩ := passed i resolved both
    exact ⟨settings.location, (Console.outcome_of_usable remote link resolved usable).2⟩
  · intro stopped given' env' remote' link'
    by_cases silent : asked
    · have here : outcome = _ := Console.outcome_of_help remote link silent
      rw [here]
      exact Console.outcome_of_help remote' link' silent
    · obtain ⟨e, unresolved⟩ := stopped.resolve_left silent
      have here : outcome = _ := Console.outcome_of_unresolved remote link silent unresolved
      rw [here]
      exact Console.outcome_of_unresolved remote' link' silent unresolved
  · constructor
    · intro usage
      -- at the other gates, and behind them, there are other exit codes
      by_cases silent : asked
      · have here : outcome = _ := Console.outcome_of_help remote link silent
        rw [here] at usage
        cases usage
      · refine ⟨silent, ?_⟩
        cases resolved : words with
        | error e => exact ⟨e, rfl⟩
        | ok i =>
          cases usable : given.elim (Settings.load env) .ok with
          | ok settings =>
            exact absurd usage (Console.outcome_of_usable remote link resolved usable).1
          | error e =>
            have here : outcome = _ :=
              congrArg (fun action => action.run remote link)
                (Console.run_of_unusable resolved usable)
            rw [here, Action.complain, Console.run_perform_return] at usage
            cases usage
    · rintro ⟨silent, e, unresolved⟩
      have here : outcome = _ := Console.outcome_of_unresolved remote link silent unresolved
      rw [here]

/-- With nothing but an empty project in the environment, help is given, a missing word is complained
about, and only a command line with all its words is told about the project. -/
theorem stopped_at_each_gate :
    let env := Environment.ofList [("PROJECT_ID", "")]
    let outcome (argv : List String) := (Console.run argv none env).run {} {}
    (outcome ["-h", "get_product_set"]).result = .ok .success ∧
    (outcome ["get_product_set"]).result = .ok .usage ∧
    outcome ["get_product_set", "shoes"] = ⟨.ok .failure, {}, [.event (.err
      "Configuration error: Missing required environment variable: PROJECT_ID\n")]⟩ := by
  intro env outcome
  have asked : Console.HelpIsAsked ["-h", "get_product_set"] := by
    refine ⟨"-h", _, rfl, ?_⟩
    rw [Text.lowercase_of_plain (by decide)]
    exact List.mem_cons_of_mem _ List.mem_cons_self
  have builtin : Builtin.getProductSet ∈ Builtin.commands := by simp [Builtin.commands]
  have silent (rest : List String) : ¬ Console.HelpIsAsked ("get_product_set" :: rest) := by
    rintro ⟨word, rest', eq, asks⟩
    obtain ⟨rfl, -⟩ := List.cons.inj eq
    rw [Text.lowercase_of_plain (by decide)] at asks
    exact absurd asks (by decide)
  have unresolved : ∃ e, Builtin.registry.resolve ["get_product_set"] = .error e := by
    refine ⟨.missingArgument "productSetId" Builtin.getProductSet.usage, ?_⟩
    change Builtin.registry.resolve (Builtin.getProductSet.name :: []) = _
    rw [Registry.resolve, Registry.get?, Builtin.lowercase_name builtin,
      Builtin.lookup_name builtin]
    rfl
  have resolved : Builtin.registry.resolve ["get_product_set", "shoes"] =
      .ok ⟨Builtin.getProductSet, ["shoes"], rfl⟩ := Builtin.resolve_name builtin ["shoes"] rfl
  obtain ⟨helped, -⟩ := gates_in_order ["-h", "get_product_set"] none env {} {}
  obtain ⟨-, -, -, -, -, refused⟩ := gates_in_order ["get_product_set"] none env {} {}
  obtain ⟨-, -, unset, -⟩ := gates_in_order ["get_product_set", "shoes"] none env {} {}
  refine ⟨?_, refused.mpr ⟨silent [], unresolved⟩, ?_⟩
  · change ((Console.run ["-h", "get_product_set"] none env).run {} {}).result = _
    rw [helped asked]
  · exact unset _ "PROJECT_ID" (silent ["shoes"]) resolved rfl (.inl ⟨rfl, .inr rfl⟩)

end CatalogConsole
