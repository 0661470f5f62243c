import CatalogConsole.Proofs.Gates

/-! # What the environment decides

Of the environment and the text of defaults a launch reads two values, those of the project and the
region.  `Loader.effective` says which value a variable has: that of the environment if there is one,
even an empty one, and else that of the last assignment to it, unless the loader is turned off.  A loader
that does what is documented completes an environment by its effective values, and it can do so unless
one of them is a default that no variable can hold (`Loader.Documented.loads_iff`).

The last assignment to a variable is found among the assignments to it (`Assignment.lastValue?_about`),
so whatever stands on other lines, and where, has no say (`environment_acts_through_two_values`).  It
has one only where it cannot be loaded at all, and then nothing else happens, not even where help is
asked for (`unholdable_default_stops_help`).
-/
namespace CatalogConsole

/-! ## The lines of a text of defaults -/

namespace Assignment

theorem lines_of_unbroken {s : List Char} (unbroken : ∀ c ∈ s, c ≠ '\n' ∧ c ≠ '\r') :
    lines s = [s] := by
  induction s with
  | nil => rfl
  | cons c rest ih =>
    have inside : ¬ (c = '\n' ∨ c = '\r') := not_or.mpr (unbroken c List.mem_cons_self)
    rw [lines, if_neg inside, ih fun c' hc' => unbroken c' (List.mem_cons_of_mem _ hc')]

theorem lines_ne_nil (s : List Char) : lines s ≠ [] := by
  cases s with
  | nil => exact List.cons_ne_nil _ _
  | cons c rest =>
    rw [lines]
    split
    · exact List.cons_ne_nil _ _
    · split <;> exact List.cons_ne_nil _ _

/-- A line feed divides the lines in front of it from those behind it. -/
theorem lines_lineFeed (s t : List Char) : lines (s ++ '\n' :: t) = lines s ++ lines t := by
  induction s with
  | nil => rfl
  | cons c rest ih =>
    rw [List.cons_append, lines, lines, ih]
    split
    · rfl
    · cases before : lines rest with
      | nil => exact absurd before (lines_ne_nil rest)
      | cons line more => rfl

/-- There is no byte order mark behind a line feed. -/
theorem withoutOrderMark_lineFeed (s t : List Char) :
    withoutOrderMark (s ++ '\n' :: t) = withoutOrderMark s ++ '\n' :: t := by
  cases s with
  | nil => rfl
  | cons c rest =>
    by_cases mark : c = '\ufeff'
    · rw [mark]
      rfl
    · rw [List.cons_append, withoutOrderMark, withoutOrderMark]
      · rfl
      all_goals
        rintro _ ⟨⟩
        exact mark rfl

/-- The assignments in a text behind a line feed. -/
def behind (s : String) : List Assignment := (lines s.toList).filterMap ofLine?

theorem behind_of_isLine {line : String} (h : IsLine line) :
    behind line = (ofLine? line.toList).toList := by
  rw [behind, lines_of_unbroken h]
  cases said : ofLine? line.toList <;> simp [said]

/-- The assignments in front of a line feed come before those behind it. -/
theorem ofText_lineFeed (before after : String) :
    ofText (before ++ "\n" ++ after) = ofText before ++ behind after := by
  have text : (before ++ "\n" ++ after).toList = before.toList ++ '\n' :: after.toList := by
    rw [String.toList_append, String.toList_append, List.append_assoc]
    rfl
  rw [ofText, text, withoutOrderMark_lineFeed, lines_lineFeed, List.filterMap_append]
  rfl

theorem ofText_behind (after : String) : ofText ("\n" ++ after) = behind after := by
  have first := ofText_lineFeed "" after
  rw [String.empty_append] at first
  rw [first]
  rfl

/-- A line with nothing on it but a comment says nothing. -/
theorem ofLine?_of_isOver {line : List Char} (ends : isOver line = true) : ofLine? line = none := by
  rw [isOver] at ends
  cases rest : line.dropWhile Text.isLayout with
  | nil => rw [ofLine?, rest]; rfl
  | cons c after =>
    have sign : c = '#' := by
      rw [rest] at ends
      exact of_decide_eq_true ends
    rw [ofLine?, rest, sign]
    rfl

/-- So does a line that is a comment behind blanks. -/
theorem isOver_of_isComment {s : String} (comment : IsComment s) : isOver s.toList = true := by
  obtain ⟨-, rest, sign⟩ := comment
  -- the blanks in front of the sign are skipped in any case
  have skipped (cs : List Char) (h : cs.dropWhile (· = ' ') = '#' :: rest) :
      cs.dropWhile Text.isLayout = '#' :: rest := by
    induction cs with
    | nil => cases h
    | cons c cs ih =>
      by_cases blank : c = ' '
      · subst blank
        exact ih h
      · simp only [List.dropWhile_cons, blank, decide_false, Bool.false_eq_true, if_false] at h
        obtain ⟨rfl, rfl⟩ := List.cons.inj h
        rfl
  rw [isOver, skipped _ sign]
  rfl

/-- What is said about a variable. -/
def about (name : String) (assignments : List Assignment) : List Assignment :=
  assignments.filter (·.name = name)

theorem about_append (name : String) (first second : List Assignment) :
    about name (first ++ second) = about name first ++ about name second :=
  List.filter_append first second

/-- Only what is said about a variable has a say in its value. -/
theorem lastValue?_about (name : String) (assignments : List Assignment) :
    lastValue? (about name assignments) name = lastValue? assignments name := by
  rw [lastValue?, lastValue?, about, ← List.filter_reverse, List.find?_filter]
  simp only [decide_eq_true_eq, and_self]

/-- A value is that of an assignment. -/
theorem mem_of_lastValue? {assignments : List Assignment} {name value : String}
    (h : lastValue? assignments name = some value) : ⟨name, some value⟩ ∈ assignments := by
  rw [lastValue?, Option.bind_eq_some_iff] at h
  obtain ⟨a, found, isValue⟩ := h
  have isName : a.name = name := by simpa using List.find?_some found
  have member : a ∈ assignments := List.mem_reverse.mp (List.mem_of_find?_eq_some found)
  rw [← isName, ← isValue]
  exact member

/-- Assignments to different variables can change places. -/
theorem about_swapped {as bs : List Assignment} (unrelated : ∀ x ∈ as, ∀ y ∈ bs, x.name ≠ y.name)
    (name : String) : about name as ++ about name bs = about name bs ++ about name as := by
  by_cases mine : ∃ x ∈ as, x.name = name
  · obtain ⟨x, member, rfl⟩ := mine
    have others : about x.name bs = [] := by
      rw [about, List.filter_eq_nil_iff]
      exact fun y hy => by simpa using (unrelated x member y hy).symm
    rw [others, List.append_nil, List.nil_append]
  · have others : about name as = [] := by
      rw [about, List.filter_eq_nil_iff]
      exact fun x hx => by simpa using fun is => mine ⟨x, hx, is⟩
    rw [others, List.append_nil, List.nil_append]

end Assignment

/-! ## Effective values -/

namespace Loader
variable {loader : Loader} {env env' : Environment} {text text' : String}

/-- **The effective values** of variables: those of the environment, and for the others those that a
text of defaults assigns to them last, unless the loader is turned off. -/
def effective (loader : Loader) (env : Environment) (text : String) : Environment :=
  fun name =>
    match env name with
    | some value => some value
    | none =>
      if loader.isOff env then none
      else Assignment.lastValue? (loader.assignments env text) name

/-- A loader loads a text of defaults into an environment. -/
def Loads (loader : Loader) (env : Environment) (text : String) : Prop :=
  ∃ completed, loader.complete env text = .ok completed

/-- **A documented loader completes an environment by its effective values.** -/
theorem Documented.completed_eq (documented : loader.Documented) {completed : Environment}
    (loaded : loader.complete env text = .ok completed) : completed = loader.effective env text := by
  funext name
  rw [effective]
  split
  · rename_i value present
    exact documented.keeps env text completed loaded name value present
  · rename_i absent
    cases off : loader.isOff env with
    | true =>
      obtain rfl : completed = env := Except.ok.inj (loaded.symm.trans (documented.off env text off))
      exact absent
    | false => exact documented.adds env text completed off loaded name absent

/-- **When a documented loader loads a text**: if it is turned off, or if every variable that is not there
can hold the value that it gets. -/
theorem Documented.loads_iff (documented : loader.Documented) :
    loader.Loads env text ↔ loader.isOff env = true ∨ ∀ name value, env name = none →
      Assignment.lastValue? (loader.assignments env text) name = some value →
      VariableError.of? name value = none := by
  cases off : loader.isOff env with
  | true => exact iff_of_true ⟨env, documented.off env text off⟩ (.inl rfl)
  | false => simpa [Loads] using documented.loads env text off

/-- When it does not: if it is not turned off, and there is a variable that cannot hold its value. -/
theorem Documented.fails_iff (documented : loader.Documented) :
    (∃ e, loader.complete env text = .error e) ↔ loader.isOff env = false ∧
      ∃ name value e, env name = none ∧
        Assignment.lastValue? (loader.assignments env text) name = some value ∧
        VariableError.of? name value = some e := by
  constructor
  · rintro ⟨e, failed⟩
    obtain ⟨name, value, absent, last, error⟩ := documented.fails env text e failed
    refine ⟨?_, name, value, e, absent, last, error⟩
    rw [← Bool.not_eq_true]
    intro off
    rw [documented.off env text off] at failed
    cases failed
  · rintro ⟨on, name, value, e, absent, last, error⟩
    cases complete : loader.complete env text with
    | error e => exact ⟨e, rfl⟩
    | ok completed =>
      have none := (documented.loads env text on).mp ⟨completed, complete⟩ name value absent last
      rw [error] at none
      cases none

/-- What a text says about each variable decides whether it is loaded, -/
theorem Documented.loads_congr (documented : loader.Documented)
    (said : ∀ name, Assignment.about name (loader.assignments env text) =
      Assignment.about name (loader.assignments env text')) :
    loader.Loads env text ↔ loader.Loads env text' := by
  have last (name : String) : Assignment.lastValue? (loader.assignments env text) name =
      Assignment.lastValue? (loader.assignments env text') name := by
    rw [← Assignment.lastValue?_about, said, Assignment.lastValue?_about]
  rw [documented.loads_iff, documented.loads_iff]
  simp only [last]

/-- and what it says about a variable decides on its effective value. -/
theorem effective_congr {name : String} (same : env name = env' name)
    (off : loader.isOff env = loader.isOff env')
    (said : Assignment.about name (loader.assignments env text) =
      Assignment.about name (loader.assignments env' text')) :
    loader.effective env text name = loader.effective env' text' name := by
  rw [effective, effective, same, off, ← Assignment.lastValue?_about, said,
    Assignment.lastValue?_about]

/-- **The parts of a text are read apart**: with line feeds between them, each is read as if it stood
alone.  They are if no value goes on behind the end of its part and none refers to another part. -/
def ReadsApart (loader : Loader) (env : Environment) (first : String) (parts : List String) : Prop :=
  loader.assignments env (parts.foldl (fun text part => text ++ "\n" ++ part) first) =
    loader.assignments env first ++ parts.flatMap fun part => loader.assignments env ("\n" ++ part)

/-- A comment can be put between two parts. -/
theorem Documented.assignments_comment (documented : loader.Documented) {before comment after : String}
    (isComment : IsComment comment) (apart : loader.ReadsApart env before [comment, after])
    (apart' : loader.ReadsApart env before [after]) :
    loader.assignments env (before ++ "\n" ++ comment ++ "\n" ++ after) =
      loader.assignments env (before ++ "\n" ++ after) := by
  refine apart.trans (Eq.trans ?_ apart'.symm)
  rw [List.flatMap_cons, documented.comment env comment isComment, List.nil_append]

/-- Two parts with assignments to different variables can change places. -/
theorem about_swapped {before a b after : String}
    (unrelated : ∀ x ∈ loader.assignments env ("\n" ++ a),
      ∀ y ∈ loader.assignments env ("\n" ++ b), x.name ≠ y.name)
    (apart : loader.ReadsApart env before [a, b, after])
    (apart' : loader.ReadsApart env before [b, a, after]) (name : String) :
    Assignment.about name
        (loader.assignments env (before ++ "\n" ++ a ++ "\n" ++ b ++ "\n" ++ after)) =
      Assignment.about name
        (loader.assignments env (before ++ "\n" ++ b ++ "\n" ++ a ++ "\n" ++ after)) := by
  have swapped := Assignment.about_swapped unrelated name
  refine (congrArg _ apart).trans (Eq.trans ?_ (congrArg _ apart').symm)
  simp only [List.flatMap_cons, Assignment.about_append]
  rw [← List.append_assoc (Assignment.about name (loader.assignments env ("\n" ++ a))), swapped,
    List.append_assoc]

/-! ### The loader that is put in -/

/-- There is a fault if a variable cannot hold the value that it gets. -/
theorem fault?_eq_none_iff (assignments : List Assignment) :
    env.fault? assignments = none ↔ ∀ name value, env name = none →
      Assignment.lastValue? assignments name = some value →
      VariableError.of? name value = none := by
  rw [Environment.fault?, List.findSome?_eq_none_iff]
  constructor
  · intro sound name value absent last
    have none := sound _ (Assignment.mem_of_lastValue? last)
    simpa [absent, last] using none
  · intro holdable a _
    cases present : env a.name with
    | some value => rfl
    | none =>
      cases last : Assignment.lastValue? assignments a.name with
      | none => rfl
      | some value => exact holdable a.name value present last

theorem exists_of_fault? {assignments : List Assignment} {e : VariableError}
    (fault : env.fault? assignments = some e) : ∃ name value, env name = none ∧
      Assignment.lastValue? assignments name = some value ∧
      VariableError.of? name value = some e := by
  obtain ⟨a, -, found⟩ := List.exists_of_findSome?_eq_some fault
  split at found
  · cases found
  · rename_i absent
    obtain ⟨value, last, error⟩ := Option.bind_eq_some_iff.mp found
    exact ⟨a.name, value, Option.not_isSome_iff_eq_none.mp absent, last, error⟩

/-- **What the line reader can do with a text**: leave it if it is turned off, and else load all of it, or
none of it where there is a fault. -/
theorem lineReader_cases (env : Environment) (text : String) :
    (env.refusesDefaults = true ∧ lineReader.complete env text = .ok env) ∨
      (env.refusesDefaults = false ∧ env.fault? (Assignment.ofText text) = none ∧
        lineReader.complete env text = .ok (env.completed (Assignment.ofText text))) ∨
      ∃ e, env.refusesDefaults = false ∧ env.fault? (Assignment.ofText text) = some e ∧
        lineReader.complete env text = .error e := by
  cases off : env.refusesDefaults with
  | true => exact .inl ⟨rfl, if_pos off⟩
  | false =>
    cases fault : env.fault? (Assignment.ofText text) with
    | none => exact .inr (.inl ⟨rfl, rfl, by simp [lineReader, off, fault]⟩)
    | some e => exact .inr (.inr ⟨e, rfl, rfl, by simp [lineReader, off, fault]⟩)

/-- **The line reader is a documented loader.** -/
theorem lineReader_documented : lineReader.Documented where
  off env text off := if_pos off
  keeps env text completed loaded name value present := by
    obtain ⟨-, left⟩ | ⟨-, -, loads⟩ | ⟨e, -, -, fails⟩ := lineReader_cases env text
    · obtain rfl : completed = env := Except.ok.inj (loaded.symm.trans left)
      exact present
    · obtain rfl := Except.ok.inj (loaded.symm.trans loads)
      exact Environment.completed_of_present present _
    · cases loaded.symm.trans fails
  adds env text completed on loaded name absent := by
    obtain ⟨off, -⟩ | ⟨-, -, loads⟩ | ⟨e, -, -, fails⟩ := lineReader_cases env text
    · cases off.symm.trans on
    · obtain rfl := Except.ok.inj (loaded.symm.trans loads)
      exact Environment.completed_of_absent absent _
    · cases loaded.symm.trans fails
  loads env text on := by
    have reads : lineReader.assignments env text = Assignment.ofText text := rfl
    rw [reads, ← fault?_eq_none_iff]
    obtain ⟨off, -⟩ | ⟨-, sound, loads⟩ | ⟨e, -, fault, fails⟩ := lineReader_cases env text
    · cases off.symm.trans on
    · simp [sound, loads]
    · simp [fault, fails]
  fails env text e failed := by
    obtain ⟨-, left⟩ | ⟨-, -, loads⟩ | ⟨e', -, fault, fails⟩ := lineReader_cases env text
    · cases failed.symm.trans left
    · cases failed.symm.trans loads
    · obtain rfl : e = e' := Except.error.inj (failed.symm.trans fails)
      exact exists_of_fault? fault
  comment env line isComment := by
    have said : Assignment.behind line = [] := by
      rw [Assignment.behind_of_isLine isComment.1,
        Assignment.ofLine?_of_isOver (Assignment.isOver_of_isComment isComment)]
      rfl
    exact (Assignment.ofText_behind line).trans said

/-- It reads the parts of every text apart. -/
theorem lineReader_readsApart (env : Environment) (first : String) (parts : List String) :
    lineReader.ReadsApart env first parts := by
  induction parts generalizing first with
  | nil => exact (List.append_nil _).symm
  | cons part rest ih =>
    have divided : lineReader.assignments env (first ++ "\n" ++ part) =
        lineReader.assignments env first ++ lineReader.assignments env ("\n" ++ part) :=
      (Assignment.ofText_lineFeed first part).trans
        (congrArg _ (Assignment.ofText_behind part).symm)
    rw [ReadsApart, List.foldl_cons, ih, divided, List.flatMap_cons, List.append_assoc]

end Loader

/-! ## From the values to the launch -/

namespace Settings

theorem required_congr {env env' : Environment} {name : String}
    (same : (env name).getD "" = (env' name).getD "") : required env name = required env' name := by
  rw [required_eq, required_eq, same]

/-- The settings are the same where the two values are. -/
theorem load_congr {env env' : Environment}
    (same : ∀ name ∈ [projectVariable, regionVariable],
      (env name).getD "" = (env' name).getD "") : load env = load env' := by
  rw [load, load, required_congr (same _ List.mem_cons_self),
    required_congr (same _ (List.mem_cons_of_mem _ List.mem_cons_self))]

/-- Two values that are not empty make settings. -/
theorem load_of_values {env : Environment} {project region : String}
    (isProject : env projectVariable = some project) (isRegion : env regionVariable = some region)
    (hasProject : project ≠ "") (hasRegion : region ≠ "") : load env = .ok ⟨project, region⟩ := by
  rw [load, required_eq, required_eq, isProject, isRegion, Option.getD_some, Option.getD_some,
    if_neg hasProject, if_neg hasRegion]
  rfl

end Settings

namespace Console

variable {argv : List String} {given given' : Option Settings} {env env' : Environment}

/-- A run depends on its environment only through its settings. -/
theorem run_congr
    (same : given.elim (Settings.load env) .ok = given'.elim (Settings.load env') .ok) :
    run argv given env = run argv given' env' := by
  rw [run, run, same]

/-- Where it asks for help or makes no sense it does not depend on them either. -/
theorem run_congr_of_stopped
    (stopped : HelpIsAsked argv ∨ ∃ e, Builtin.registry.resolve argv = .error e) :
    run argv given env = run argv given' env' := by
  by_cases asks : asksForHelp argv = true
  · rw [run_of_help asks, run_of_help asks]
  · have silent : asksForHelp argv = false := Bool.not_eq_true _ ▸ asks
    obtain ⟨e, unresolved⟩ := stopped.resolve_left fun asked => asks (asksForHelp_iff.mpr asked)
    rw [run_of_unresolved silent unresolved, run_of_unresolved silent unresolved]

end Console

/-- **A launch with a documented loader** that loads its defaults is a run with the effective values. -/
theorem launch_of_loads {loader : Loader} (documented : loader.Documented) {env : Environment}
    {text : String} (loads : loader.Loads env text) (argv : List String) (remote : Remote) :
    launch loader argv env text remote =
      let outcome :=
        (Console.run (LogFlags.split argv).2 none (loader.effective env text)).run remote {}
      ⟨outcome.result, outcome.trace, Log.setup (LogFlags.split argv).1⟩ := by
  obtain ⟨completed, loaded⟩ := loads
  rw [launch_of_completed loaded, documented.completed_eq loaded]

/-- Two launches of the same command line are alike where their runs are. -/
theorem launch_congr {loader : Loader} (documented : loader.Documented) {env env' : Environment}
    {text text' : String} {argv : List String} (loads : loader.Loads env text)
    (loads' : loader.Loads env' text')
    (same : Console.run (LogFlags.split argv).2 none (loader.effective env text) =
      Console.run (LogFlags.split argv).2 none (loader.effective env' text')) (remote : Remote) :
    launch loader argv env text remote = launch loader argv env' text' remote := by
  rw [launch_of_loads documented loads, launch_of_loads documented loads', same]

/-- **The environment acts through two values only**, with any loader that does what is documented.

A text of defaults is loaded unless it gives a variable that is not there something that it cannot hold.
In that case a launch does nothing but fail, whatever its words are, and the log is not set up.

Launches with texts that are loaded are the same if the effective values of the two variables are, where a
missing value is as good as an empty one.  So it comes to nothing else than the values of the two
variables in the environment, whether the loader is turned off, and what the text says about each of
them, in this order.  Neither a comment nor the order of lines about different variables bears on that,
or on whether a text is loaded.  Where help is asked for or the words make no sense, such launches are
the same in any case.  With both values a launch is a run with these settings and a service of its own;
with one that is missing or empty, words that make sense end with exit code 1 and a message about the
first such variable, and with nothing else. -/
theorem environment_acts_through_two_values {loader : Loader} (documented : loader.Documented)
    (argv : List String) (remote : Remote) (env env' : Environment) (text text' : String) :
    let command := (LogFlags.split argv).2
    let launched (env : Environment) (text : String) := launch loader argv env text remote
    let report := launched env text
    let value := loader.effective env text
    let value' := loader.effective env' text'
    (loader.Loads env text ↔ loader.isOff env = true ∨ ∀ name value, env name = none →
      Assignment.lastValue? (loader.assignments env text) name = some value →
      VariableError.of? name value = none) ∧
    (¬ loader.Loads env text → ∃ name given e, env name = none ∧
      Assignment.lastValue? (loader.assignments env text) name = some given ∧
      VariableError.of? name given = some e ∧
      report.ending = .error (.fault .value (.text e.message)) ∧ report.events = [] ∧
        report.log.level = 30) ∧
    (loader.Loads env text → loader.Loads env' text' →
      ((∀ name ∈ ["PROJECT_ID", "REGION_NAME"], (value name).getD "" = (value' name).getD "") ∨
        (loader.isOff env = loader.isOff env' ∧ ∀ name ∈ ["PROJECT_ID", "REGION_NAME"],
          env name = env' name ∧ Assignment.about name (loader.assignments env text) =
            Assignment.about name (loader.assignments env' text')) ∨
        Console.HelpIsAsked command ∨ (∃ e, Builtin.registry.resolve command = .error e)) →
      report = launched env' text') ∧
    (∀ before comment after : String, IsComment comment →
      loader.ReadsApart env before [comment, after] → loader.ReadsApart env before [after] →
      let with_comment := before ++ "\n" ++ comment ++ "\n" ++ after
      let without := before ++ "\n" ++ after
      (loader.Loads env with_comment ↔ loader.Loads env without) ∧
        (loader.Loads env without → launched env with_comment = launched env without)) ∧
    (∀ before a b after : String, (∀ x ∈ loader.assignments env ("\n" ++ a),
        ∀ y ∈ loader.assignments env ("\n" ++ b), x.name ≠ y.name) →
      loader.ReadsApart env before [a, b, after] → loader.ReadsApart env before [b, a, after] →
      let first := before ++ "\n" ++ a ++ "\n" ++ b ++ "\n" ++ after
      let second := before ++ "\n" ++ b ++ "\n" ++ a ++ "\n" ++ after
      (loader.Loads env first ↔ loader.Loads env second) ∧
        (loader.Loads env second → launched env first = launched env second)) ∧
    (∀ (env : Environment) (first : String) (parts : List String),
      Loader.lineReader.ReadsApart env first parts) ∧
    (loader.Loads env text → ∀ project region, value "PROJECT_ID" = some project →
      value "REGION_NAME" = some region → project ≠ "" → region ≠ "" → ∀ other : Environment,
      let step := (Session.step {} ⟨command, some ⟨project, region⟩, other, .own, remote⟩).2
      report.ending = step.ending ∧ report.trace = step.trace ∧
        report.events = step.trace.seen (Log.setup (LogFlags.split argv).1)) ∧
    (loader.Loads env text → ∀ i name, Builtin.registry.resolve command = .ok i →
      (name = "PROJECT_ID" ∧ value.Lacks "PROJECT_ID" ∨
        name = "REGION_NAME" ∧ ¬ value.Lacks "PROJECT_ID" ∧ value.Lacks "REGION_NAME") →
      report.ending = .ok .failure ∧
        report.events = [.err
          ("Configuration error: Missing required environment variable: " ++ name ++ "\n")]) := by
  intro command launched report value value'
  have ran (loads : loader.Loads env text) : report = _ := launch_of_loads documented loads argv remote
  have alike {env env' : Environment} {text text' : String} (loads : loader.Loads env text)
      (loads' : loader.Loads env' text')
      (same : ∀ name ∈ ["PROJECT_ID", "REGION_NAME"],
        (loader.effective env text name).getD "" = (loader.effective env' text' name).getD "") :
      launched env text = launched env' text' :=
    launch_congr documented loads loads' (Console.run_congr (Settings.load_congr same)) remote
  have alikeSaid {env env' : Environment} {text text' : String} (loads : loader.Loads env text)
      (loads' : loader.Loads env' text') (off : loader.isOff env = loader.isOff env')
      (same : ∀ name ∈ ["PROJECT_ID", "REGION_NAME"], env name = env' name ∧
        Assignment.about name (loader.assignments env text) =
          Assignment.about name (loader.assignments env' text')) :
      launched env text = launched env' text' :=
    alike loads loads' fun name hname =>
      congrArg (·.getD "") (Loader.effective_congr (same name hname).1 off (same name hname).2)
  refine ⟨documented.loads_iff, ?_, ?_, ?_, ?_, Loader.lineReader_readsApart, ?_, ?_⟩
  · intro stuck
    cases complete : loader.complete env text with
    | ok completed => exact absurd ⟨completed, complete⟩ stuck
    | error e =>
      have stopped : report = _ := launch_of_fault complete remote
      obtain ⟨name, given, absent, last, error⟩ := documented.fails env text e complete
      rw [stopped]
      exact ⟨name, given, e, absent, last, error, rfl, rfl, rfl⟩
  · rintro loads loads' (same | ⟨off, same⟩ | stopped)
    · exact alike loads loads' same
    · exact alikeSaid loads loads' off same
    · exact launch_congr documented loads loads' (Console.run_congr_of_stopped stopped) remote
  · intro before comment after isComment apart apart' with_comment without
    have same := documented.assignments_comment isComment apart apart'
    have both : loader.Loads env with_comment ↔ loader.Loads env without :=
      documented.loads_congr fun name => congrArg _ same
    exact ⟨both, fun loads => alikeSaid (both.mpr loads) loads rfl
      fun name _ => ⟨rfl, congrArg _ same⟩⟩
  · intro before a b after unrelated apart apart' first second
    have same := Loader.about_swapped unrelated apart apart'
    have both : loader.Loads env first ↔ loader.Loads env second := documented.loads_congr same
    exact ⟨both, fun loads => alikeSaid (both.mpr loads) loads rfl fun name _ => ⟨rfl, same name⟩⟩
  · intro loads project region isProject isRegion hasProject hasRegion other step
    have loaded := Settings.load_of_values isProject isRegion hasProject hasRegion
    have runs : Console.run command none value =
        Console.run command (some ⟨project, region⟩) other := Console.run_congr loaded
    have shown : report = ⟨step.ending, step.trace, Log.setup (LogFlags.split argv).1⟩ := by
      rw [ran loads]
      exact congrArg (fun action : Action ExitCode =>
        let outcome := action.run remote {}
        LaunchReport.mk outcome.result outcome.trace (Log.setup (LogFlags.split argv).1)) runs
    rw [shown]
    exact ⟨rfl, rfl, rfl⟩
  · intro loads i name resolved missing
    have unusable : Settings.load value = .error (.missingVariable name) := by
      rcases missing with ⟨rfl, lacks⟩ | ⟨rfl, has, lacks⟩
      · exact Settings.load_of_no_project lacks
      · exact Settings.load_of_no_region has lacks
    have stopped := Console.outcome_of_unusable remote {} resolved unusable
    rw [ran loads]
    constructor
    · exact congrArg Outcome.result stopped
    · exact congrArg (fun outcome : Outcome ExitCode =>
        outcome.trace.seen (Log.setup (LogFlags.split argv).1)) stopped

/-- A project that is exported and a region from the defaults, and the other way round, make the same
launch; a project that is exported as an empty text is missing, whatever the defaults say. -/
theorem exported_and_default_settings :
    let exported := Environment.ofList [("PROJECT_ID", "shop"), ("HOME", "/root")]
    let exported' := Environment.ofList [("REGION_NAME", "east")]
    let empty := Environment.ofList [("PROJECT_ID", "")]
    let text := "# the region\nREGION_NAME = 'east' # not west\n"
    let text' := "PROJECT_ID=old\nOTHER=1\nexport PROJECT_ID=shop\nREGION_NAME=west\n"
    let launched := launch .lineReader ["-v", "list_product_sets"]
    (∀ remote, launched exported text remote = launched exported' text' remote) ∧
    (launched empty text' {}).events =
      [.err "Configuration error: Missing required environment variable: PROJECT_ID\n"] := by
  intro exported exported' empty text text' launched
  have loads (env : Environment) {text : String}
      (sound : env.fault? (Assignment.ofText text) = none) : Loader.lineReader.Loads env text :=
    Loader.lineReader_documented.loads_iff.mpr (.inr ((Loader.fault?_eq_none_iff _).mp sound))
  have lists : Builtin.listProductSets ∈ Builtin.commands := by simp [Builtin.commands]
  have resolved : Builtin.registry.resolve ["list_product_sets"] =
      .ok ⟨Builtin.listProductSets, [], rfl⟩ := Builtin.resolve_name lists [] rfl
  refine ⟨fun remote => ?_, ?_⟩
  · obtain ⟨-, -, alike, -⟩ := environment_acts_through_two_values Loader.lineReader_documented
      ["-v", "list_product_sets"] remote exported exported' text text'
    exact alike (loads _ (by decide)) (loads _ (by decide)) (.inl (by decide))
  · obtain ⟨-, -, -, -, -, -, -, missing⟩ := environment_acts_through_two_values
      Loader.lineReader_documented ["-v", "list_product_sets"] {} empty empty text' text'
    exact (missing (loads _ (by decide)) _ "PROJECT_ID" resolved (.inl ⟨rfl, .inr rfl⟩)).2

/-- **A default that its variable cannot hold stops a launch in which help is asked for**, although it is
about neither of the two variables, which have the same effective values without it. -/
theorem unholdable_default_stops_help :
    let env := Environment.ofList []
    let text := "OTHER=\x00\n"
    let report := launch .lineReader ["help"] env text {}
    let report' := launch .lineReader ["help"] env "" {}
    (∀ name ∈ ["PROJECT_ID", "REGION_NAME"],
      Loader.lineReader.effective env text name = Loader.lineReader.effective env "" name) ∧
    report.ending = .error (.fault .value (.text "embedded null byte")) ∧ report.log.level = 30 ∧
    report'.ending = .ok .success ∧ report'.log.level = 20 ∧ report ≠ report' := by
  intro env text report report'
  have faulty : env.fault? (Assignment.ofText text) = some .nulCharacter := by decide
  have fault : Loader.lineReader.complete env text = .error .nulCharacter := by
    simp only [Loader.lineReader, faulty]
    rfl
  have stopped : report = _ := launch_of_fault fault {}
  have helped : report'.ending = .ok .success := by rfl
  refine ⟨by decide, by rw [stopped]; rfl, by rw [stopped]; rfl, helped, rfl, fun same => ?_⟩
  rw [← same, stopped] at helped
  cases helped

end CatalogConsole
