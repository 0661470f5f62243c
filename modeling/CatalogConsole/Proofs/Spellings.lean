import CatalogConsole.Proofs.CommandReach
import CatalogConsole.Proofs.Gates

/-! # Spellings of the built-in commands

A word is put into lower case in the full sense of the Unicode Standard before it is looked up, so
there might be words outside ASCII that become the name of a command.  There are none.  Only two
characters outside ASCII have ASCII letters in their lower case: the Kelvin sign becomes a k, which
none of the names has, and the capital I with a dot above becomes an i with a combining dot behind it,
which is not ASCII.  So for a text of clear characters (`IsClear`), to become it in lower case means to
be it but for the case of ASCII letters (`lowercase_eq_iff`).

From the lower case of an accepted word on, nothing depends on the word any more, so a run is the same
for all spellings of a name (`Console.run_spelled`).
-/
namespace CatalogConsole

namespace Text

/-- A word spells a name if it is the name but for the case of ASCII letters: it is as long as the name,
and it is the name once its letters A to Z are made small. -/
def Spells (word name : String) : Prop := word.length = name.length ∧ word.toLower = name

/-- To make letters small changes no length. -/
theorem spells_iff {word name : String} : Spells word name ↔ word.toLower = name := by
  rw [Spells, and_iff_right_iff_imp]
  rintro rfl
  exact String.length_map.symm

theorem toList_toLower (s : String) : s.toLower.toList = s.toList.map Char.toLower :=
  String.toList_map

/-- The letters A to Z are made small, and any other character is kept. -/
theorem toNat_toLower (c : Char) :
    c.toLower.toNat = if 0x41 ≤ c.toNat ∧ c.toNat ≤ 0x5a then c.toNat + 0x20 else c.toNat := by
  have capital : (c.val ≥ 'A'.val ∧ c.val ≤ 'Z'.val) ↔ 0x41 ≤ c.toNat ∧ c.toNat ≤ 0x5a := by
    rw [ge_iff_le, UInt32.le_iff_toNat_le, UInt32.le_iff_toNat_le]
    rfl
  unfold Char.toLower
  by_cases h : 0x41 ≤ c.toNat ∧ c.toNat ≤ 0x5a
  · rw [dif_pos (capital.mpr h), if_pos h]
    have small : c.val.toNat ≤ 0x5a := h.2
    change (c.val + 0x20).toNat = c.val.toNat + 0x20
    rw [UInt32.toNat_add]
    change (c.val.toNat + 0x20) % 2 ^ 32 = c.val.toNat + 0x20
    omega
  · rw [dif_neg (mt capital.mp h), if_neg h]

/-! ## Clear characters -/

/-- **A clear character** is in ASCII, not a capital, and nothing but itself and perhaps an ASCII capital
becomes it in lower case.  The k is not clear, because of the Kelvin sign. -/
def IsClear (c : Char) : Prop :=
  c.toNat < 0x80 ∧ ¬ (0x41 ≤ c.toNat ∧ c.toNat ≤ 0x5a) ∧ c.toNat ≠ 0x6b

instance (c : Char) : Decidable (IsClear c) := inferInstanceAs (Decidable (_ ∧ _))

/-- The partner of a character is a clear one just if it is its small ASCII letter, or the character
itself. -/
theorem lowerPartner_eq_iff {t : Char} (clear : IsClear t) (c : Char) :
    lowerPartner c = t ↔ c.toLower = t := by
  -- of the runs only the capitals A to Z and the Kelvin sign have partners in ASCII
  have kinds : ∀ r ∈ lowerRuns, r.first = 0x41 ∧ r.last = 0x5a ∧ r.lower = 0x61 ∨
      r.first = 0x212a ∧ r.last = 0x212a ∧ r.lower = 0x6b ∨ 0x80 ≤ r.first ∧ 0x80 ≤ r.lower := by
    decide +kernel
  obtain ⟨ascii, small, notK⟩ := clear
  rw [← Char.toNat_inj, ← Char.toNat_inj, toNat_toLower]
  rcases lowerPartner_cases c with ⟨r, hr, ⟨first, last, -⟩, partner⟩ | ⟨unmet, own⟩
  · rw [partner]
    rcases kinds r hr with ⟨letters, letters', lower⟩ | ⟨kelvin, kelvin', lower⟩ | ⟨high, high'⟩
    · rw [if_pos (by omega)]
      omega
    · rw [if_neg (by omega)]
      omega
    · rw [if_neg (by omega)]
      omega
  · have noCapital : ¬ (0x41 ≤ c.toNat ∧ c.toNat ≤ 0x5a) := by
      rintro ⟨first, last⟩
      exact unmet ⟨0x41, 0x5a, 1, 0x61⟩ (by decide +kernel) ⟨first, last, Nat.mod_one _⟩
    rw [own, if_neg noCapital]

/-- So is a text of clear characters the lower case of a text just if it is the text but for the case
of ASCII letters. -/
theorem lowerAfter_eq_iff {t : List Char} (clear : ∀ c ∈ t, IsClear c) (before s : List Char) :
    lowerAfter before s = t ↔ s.map Char.toLower = t := by
  induction s generalizing before t with
  | nil => rfl
  | cons c rest ih =>
    have unclear {d : Char} (h : ¬ IsClear d) : d ∉ t := mt (clear d) h
    rw [lowerAfter_cons, List.map_cons]
    unfold lowerForm
    split
    · -- a sigma stays a sigma, in either form
      rename_i sigma
      have kept : c.toLower ∉ t := unclear (by rw [sigma]; decide)
      have small : (if endsWord before rest then finalSigma else smallSigma) ∉ t := by
        split
        · exact unclear (by decide)
        · exact unclear (by decide)
      constructor
      · rintro rfl
        exact absurd (List.mem_append_left _ List.mem_cons_self) small
      · rintro rfl
        exact absurd List.mem_cons_self kept
    · split
      · -- a capital I with a dot keeps its dot
        rename_i dotted
        have kept : c.toLower ∉ t := unclear (by rw [dotted]; decide)
        have dot : '\u0307' ∉ t := unclear (by decide)
        constructor
        · rintro rfl
          exact absurd (List.mem_append_left _ (List.mem_cons_of_mem _ List.mem_cons_self)) dot
        · rintro rfl
          exact absurd List.mem_cons_self kept
      · cases t with
        | nil => simp
        | cons d more =>
          have partner := lowerPartner_eq_iff (clear d List.mem_cons_self) c
          have later := ih (fun e he => clear e (List.mem_cons_of_mem _ he)) (c :: before)
          rw [List.singleton_append, List.cons.injEq, List.cons.injEq, partner, later]

/-- **A name of clear characters is the lower case of its spellings** and of no other word. -/
theorem lowercase_eq_iff {name : String} (clear : ∀ c ∈ name.toList, IsClear c) (word : String) :
    lowercase word = name ↔ Spells word name := by
  rw [spells_iff, ← String.toList_inj, ← String.toList_inj, toList_lowercase, toList_toLower]
  exact lowerAfter_eq_iff clear [] word.toList

/-- A spelling of a name of clear characters is in ASCII. -/
theorem Spells.ascii {word name : String} (spells : Spells word name)
    (clear : ∀ c ∈ name.toList, IsClear c) {c : Char} (hc : c ∈ word.toList) : c.toNat < 0x80 := by
  have kept : c.toLower ∈ name.toList := by
    rw [← spells.2, toList_toLower]
    exact List.mem_map_of_mem hc
  have ascii := (clear _ kept).1
  rw [toNat_toLower] at ascii
  split at ascii
  · omega
  · exact ascii

end Text

/-! ## Accepted words -/

namespace Console

/-- The words that a console accepts, as they are shown to the user. -/
def acceptedNames : List String := helpWords ++ Builtin.commands.map (·.name)

theorem clear_acceptedNames {name : String} (h : name ∈ acceptedNames) :
    ∀ c ∈ name.toList, Text.IsClear c := by
  have clear : (acceptedNames.flatMap String.toList).all fun c => decide (Text.IsClear c) := by
    decide +kernel
  intro c hc
  have inside : c ∈ acceptedNames.flatMap String.toList := List.mem_flatMap.mpr ⟨name, h, hc⟩
  exact of_decide_eq_true (List.all_eq_true.mp clear c inside)

end Console

/-- **A word gets a built-in command if it spells its name**, and not otherwise. -/
theorem Builtin.get_eq_some_iff {word : String} {c : Command Operation} :
    registry.get? word = some c ↔ c ∈ commands ∧ Text.Spells word c.name := by
  have clear {c : Command Operation} (builtin : c ∈ commands) : ∀ d ∈ c.name.toList, Text.IsClear d :=
    Console.clear_acceptedNames (List.mem_append_right _ (List.mem_map_of_mem builtin))
  constructor
  · intro got
    obtain ⟨held, named⟩ := Registry.lookup_eq_some_iff.mp got
    have builtin : c ∈ commands := Registry.mem_of_mem_ofList held
    exact ⟨builtin, (Text.lowercase_eq_iff (clear builtin) word).mp named.symm⟩
  · rintro ⟨builtin, spells⟩
    rw [Registry.get_eq_some_iff_of_held (lookup_name builtin)]
    exact (Text.lowercase_eq_iff (clear builtin) word).mpr spells

namespace Console

variable {word word' : String} {rest : List String}

/-- **A word asks for help if it spells one of the help words**, and not otherwise. -/
theorem helpIsAsked_iff :
    HelpIsAsked (word :: rest) ↔ ∃ help ∈ ["help", "-h", "--help"], Text.Spells word help := by
  have clear {help : String} (h : help ∈ helpWords) : ∀ d ∈ help.toList, Text.IsClear d :=
    clear_acceptedNames (List.mem_append_left _ h)
  constructor
  · rintro ⟨word', rest', eq, asks⟩
    cases eq
    exact ⟨_, asks, (Text.lowercase_eq_iff (clear asks) word).mp rfl⟩
  · rintro ⟨help, asks, spells⟩
    have becomes := (Text.lowercase_eq_iff (clear asks) word).mpr spells
    exact ⟨word, rest, rfl, becomes ▸ asks⟩

/-- **A word is accepted** if it asks for help or gets a command. -/
def Accepts (word : String) : Prop :=
  HelpIsAsked [word] ∨ ∃ c, Builtin.registry.get? word = some c

/-- The accepted words are the spellings of the accepted names. -/
theorem accepts_iff : Accepts word ↔ ∃ name ∈ acceptedNames, Text.Spells word name := by
  constructor
  · rintro (asks | ⟨c, got⟩)
    · obtain ⟨help, hhelp, spells⟩ := helpIsAsked_iff.mp asks
      exact ⟨help, List.mem_append_left _ hhelp, spells⟩
    · obtain ⟨builtin, spells⟩ := Builtin.get_eq_some_iff.mp got
      exact ⟨c.name, List.mem_append_right _ (List.mem_map_of_mem builtin), spells⟩
  · rintro ⟨name, hname, spells⟩
    rcases List.mem_append.mp hname with asks | named
    · exact .inl (helpIsAsked_iff.mpr ⟨name, asks, spells⟩)
    · obtain ⟨c, builtin, rfl⟩ := List.mem_map.mp named
      exact .inr ⟨c, Builtin.get_eq_some_iff.mpr ⟨builtin, spells⟩⟩

/-- So they are in ASCII. -/
theorem ascii_of_accepts (accepted : Accepts word) {c : Char} (hc : c ∈ word.toList) :
    c.toNat < 0x80 := by
  obtain ⟨name, hname, spells⟩ := accepts_iff.mp accepted
  exact spells.ascii (clear_acceptedNames hname) hc

/-! ## Runs of accepted words -/

/-- Of an accepted word, a run looks at the lower case only. -/
theorem run_congr_of_lowercase (same : Text.lowercase word = Text.lowercase word')
    (accepted : Accepts word) (rest : List String) (given : Option Settings) (env : Environment) :
    run (word :: rest) given env = run (word' :: rest) given env := by
  have asks : asksForHelp (word :: rest) = asksForHelp (word' :: rest) := by
    rw [asksForHelp, asksForHelp, same]
  have got : Builtin.registry.get? word = Builtin.registry.get? word' := by
    rw [Registry.get?, Registry.get?, same]
  unfold run
  rw [← asks]
  rcases accepted with asked | ⟨c, found⟩
  · have helped : asksForHelp (word :: rest) = true :=
      asksForHelp_iff.mpr (helpIsAsked_iff.mpr (helpIsAsked_iff.mp asked))
    rw [if_pos helped, if_pos helped]
  · rw [Registry.resolve_of_found found, Registry.resolve_of_found (got ▸ found)]

/-- **All spellings of an accepted word have the same runs.** -/
theorem run_spelled (accepted : Accepts word) (same : word.toLower = word'.toLower)
    (rest : List String) (given : Option Settings) (env : Environment) :
    run (word :: rest) given env = run (word' :: rest) given env := by
  obtain ⟨name, hname, spells⟩ := accepts_iff.mp accepted
  have spells' : Text.Spells word' name :=
    Text.spells_iff.mpr (same.symm.trans (Text.spells_iff.mp spells))
  have becomes := Text.lowercase_eq_iff (clear_acceptedNames hname)
  exact run_congr_of_lowercase (((becomes word).mpr spells).trans ((becomes word').mpr spells').symm)
    accepted rest given env

/-- Help is what a run gives to those who ask for it, and nobody else gets the like. -/
theorem outcome_eq_help_iff (argv : List String) (given : Option Settings) (env : Environment)
    (remote : Remote) (link : Link) :
    (run argv given env).run remote link =
        ⟨.ok .success, link, [.event (.out (Builtin.registry.helpText ++ "\n"))]⟩ ↔
      HelpIsAsked argv := by
  constructor
  · intro helped
    rcases run_cases argv given env remote link with
      ⟨text, asked, -⟩ | ⟨code, text, -, complained, -⟩ | ⟨i, settings, -, -, ran⟩
    · exact asked
    · cases helped.symm.trans complained
    · -- a command starts with a note
      have traces := congrArg Outcome.trace (helped.symm.trans ran)
      cases (List.cons.inj traces).1
  · exact outcome_of_help remote link

/-- What is wrong with the words for a command is said with the usage of the command. -/
theorem message_of_invoke {c : Command Operation} {e : UsageError}
    (wrong : c.invoke rest = .error e) :
    ∃ complaint, e.message = complaint ++ " (usage: " ++
      String.intercalate " " (c.name :: c.params.map fun p => "<" ++ p ++ ">") ++ ")" := by
  rcases Nat.lt_trichotomy rest.length c.params.length with few | fits | many
  · rw [c.invoke_of_few few] at wrong
    cases wrong
    exact ⟨_, rfl⟩
  · rw [c.invoke_of_fits fits] at wrong
    cases wrong
  · rw [c.invoke_of_many many] at wrong
    cases wrong
    exact ⟨_, rfl⟩

/-- A command line that starts with a spelling of a command does not ask for help. -/
theorem not_helpIsAsked_of_spells {c : Command Operation} (builtin : c ∈ Builtin.commands)
    (spells : Text.Spells word c.name) : ¬ HelpIsAsked (word :: rest) := by
  rintro ⟨word', rest', eq, asks⟩
  cases eq
  have held := Builtin.get_eq_some_iff.mpr ⟨builtin, spells⟩
  rw [Registry.get?, Builtin.lookup_helpWords _ asks] at held
  cases held

end Console

/-- **The built-in names are accepted in any case of their ASCII letters**, and no other word is.  A word
gets a built-in command if it is as long as its name and is the name once its letters A to Z are made
small; in the same sense a run answers with help to `help`, `-h` and `--help`.  So a word with a
character outside ASCII is not accepted.

All spellings of an accepted word have the same runs, with the same ending, events and notes in every
environment and for every remote side.  In these the command is called by its own name: in what is
wrong with its words, in the note before it is carried out, and in the report of a failed call. -/
theorem accepted_in_ascii_case :
    Builtin.commands.map (·.name) =
      ["create_product_set", "list_product_sets", "get_product_set",
        "list_products_in_product_set", "add_product_to_product_set", "delete_product_set"] ∧
    (∀ word c, Builtin.registry.get? word = some c ↔
      c ∈ Builtin.commands ∧ word.length = c.name.length ∧ word.toLower = c.name) ∧
    (∀ word rest given env remote link,
      (Console.run (word :: rest) given env).run remote link =
          ⟨.ok .success, link, [.event (.out (Builtin.registry.helpText ++ "\n"))]⟩ ↔
        ∃ help ∈ ["help", "-h", "--help"], word.length = help.length ∧ word.toLower = help) ∧
    (∀ word, (∃ c ∈ word.toList, 0x80 ≤ c.toNat) → ¬ Console.Accepts word) ∧
    (∀ word word' rest given env, Console.Accepts word → word.toLower = word'.toLower →
      Console.run (word :: rest) given env = Console.run (word' :: rest) given env) ∧
    ∀ c ∈ Builtin.commands, ∀ word rest given env remote link, word.toLower = c.name →
      let outcome := (Console.run (word :: rest) given env).run remote link
      (∀ e, c.invoke rest = .error e →
        (∃ complaint, e.message = complaint ++ " (usage: " ++
          String.intercalate " " (c.name :: c.params.map fun p => "<" ++ p ++ ">") ++ ")") ∧
        outcome = ⟨.ok .usage, link, [.event (.err
          ("Usage error: " ++ e.message ++ "\n" ++ Builtin.registry.helpText ++ "\n"))]⟩) ∧
      ∀ i, c.invoke rest = .ok i → ∀ settings, given.elim (Settings.load env) .ok = .ok settings →
        let stages := (i.action.call settings.location).stages remote link
        let result := Failure.raised (Stage.firstFailure? stages)
        outcome.result = Console.ending result ∧
        outcome.trace =
          .note ⟨.debug, Console.logger,
            "Running " ++ c.name ++ " in " ++ settings.location.path⟩ ::
          Stage.trace stages ++ Console.verdict c.name result ∧
        ∀ f e text, Stage.firstFailure? stages = some f → f.normalized = .call e →
          e.text = .ok text → Console.verdict c.name result =
            [.event (.err ("Error executing " ++ c.name ++ ": " ++ text ++ "\n"))] := by
  refine ⟨rfl, fun word c => Builtin.get_eq_some_iff, ?_, ?_, ?_, ?_⟩
  · intro word rest given env remote link
    exact (Console.outcome_eq_help_iff _ given env remote link).trans Console.helpIsAsked_iff
  · rintro word ⟨c, hc, high⟩ accepted
    exact absurd (Console.ascii_of_accepts accepted hc) (Nat.not_lt.mpr high)
  · intro word word' rest given env accepted same
    exact Console.run_spelled accepted same rest given env
  · intro c builtin word rest given env remote link small outcome
    have spells := Text.spells_iff.mpr small
    have silent : ¬ Console.HelpIsAsked (word :: rest) :=
      Console.not_helpIsAsked_of_spells builtin spells
    have resolves : Builtin.registry.resolve (word :: rest) = c.invoke rest :=
      Registry.resolve_of_found (Builtin.get_eq_some_iff.mpr ⟨builtin, spells⟩) rest
    constructor
    · intro e wrong
      have unresolved := resolves.trans wrong
      exact ⟨Console.message_of_invoke wrong,
        Console.outcome_of_unresolved remote link silent unresolved⟩
    · intro i fits settings usable stages result
      obtain rfl : i.command = c := (Command.invoke_eq_ok_iff.mp fits).1
      have ran : outcome = _ :=
        Console.run_eq_stages (resolves.trans fits) usable remote link
      refine ⟨congrArg Outcome.result ran, congrArg Outcome.trace ran, ?_⟩
      intro f e text fails becomes shown
      have told : f.normalized.report = .ok text := by
        rw [becomes, Failure.report_call_of_ok shown]
      have line := ((Console.told_or_let_through i.command.name f).1 text told).1
      simpa [result, stages, fails, Console.failureLine] using line

/-- In capitals a command runs as in small letters, and it is under its own name that it complains about
a missing word and that its call fails; with a dotted capital I in it the word is not accepted, although
that becomes an i. -/
theorem shouted_command_runs :
    let run (argv : List String) := Console.run argv (some ⟨"shop", "east"⟩) (.ofList [])
    let remote : Remote :=
      { reply := { failure := some (.library (.api .notFound (some "gone") none)) } }
    Console.Accepts "GET_Product_SET" ∧
      run ["GET_Product_SET", "Shoes"] = run ["get_product_set", "Shoes"] ∧
      ((run ["GET_Product_SET"]).run remote {}).result = .ok .usage ∧
      ((run ["GET_Product_SET"]).run remote {}).trace =
        [.event (.err ("Usage error: Missing required argument: productSetId " ++
          "(usage: get_product_set <productSetId>)\n" ++ Builtin.registry.helpText ++ "\n"))] ∧
      ((run ["GET_Product_SET", "Shoes"]).run remote {}).trace.view (·.textFor .error) =
        ["Error executing get_product_set: 404 gone\n"] ∧
      Text.lowercase "L\u0130ST_PRODUCT_SETS" = "li\u0307st_product_sets" ∧
      ¬ Console.Accepts "L\u0130ST_PRODUCT_SETS" := by
  intro run remote
  obtain ⟨-, gets, -, foreign, alike, named⟩ := accepted_in_ascii_case
  have builtin : Builtin.getProductSet ∈ Builtin.commands := by simp [Builtin.commands]
  have small : "GET_Product_SET".toLower = "get_product_set" := by
    simp [← String.toList_inj, Text.toList_toLower]
  have kept : "get_product_set".toLower = "get_product_set" := by
    simp [← String.toList_inj, Text.toList_toLower]
  have accepted : Console.Accepts "GET_Product_SET" :=
    .inr ⟨_, (gets _ _).mpr ⟨builtin, by decide, small⟩⟩
  have few : ([] : List String).length < Builtin.getProductSet.params.length := Nat.zero_lt_one
  obtain ⟨complains, -⟩ :=
    named _ builtin "GET_Product_SET" [] (some ⟨"shop", "east"⟩) (.ofList []) remote {} small
  obtain ⟨-, refused⟩ := complains _ (Builtin.getProductSet.invoke_of_few few)
  obtain ⟨-, fits⟩ :=
    named _ builtin "GET_Product_SET" ["Shoes"] (some ⟨"shop", "east"⟩) (.ofList []) remote {} small
  have one : ["Shoes"].length = Builtin.getProductSet.params.length := rfl
  have complete := Builtin.getProductSet.invoke_of_fits one
  obtain ⟨-, traced, told⟩ := fits _ complete _ rfl
  have line := told _ ⟨some "gone", some 404⟩ "404 gone" rfl rfl rfl
  refine ⟨accepted, alike _ _ ["Shoes"] _ _ accepted (small.trans kept.symm),
    congrArg Outcome.result refused, ?_, ?_, by decide +kernel,
    foreign _ ⟨'\u0130', by decide, by decide⟩⟩
  · have message : "Usage error: " ++
          (UsageError.missingArgument "productSetId" Builtin.getProductSet.usage).message ++ "\n" =
        "Usage error: Missing required argument: productSetId " ++
          "(usage: get_product_set <productSetId>)\n" := by
      decide +kernel
    rw [← message]
    exact congrArg Outcome.trace refused
  · rw [traced, line]
    rfl

end CatalogConsole
