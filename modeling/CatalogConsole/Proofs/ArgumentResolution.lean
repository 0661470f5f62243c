import Mathlib.Logic.ExistsUnique
import CatalogConsole.Proofs.RegistryHistory

/-! # How a command line is resolved

A command line is read in one of five ways (`Registry.Reads`): it is empty, its first word gets no
command, or it gets one, and then the other words are as many as the command has parameters, or fewer,
or more.  `Registry.resolve` is the function of this relation (`Registry.reads_resolve`), so a report
can be traced back to the words it is about.

From there it follows what further words do to a command line.  While words are missing, each further
word moves the report to the next parameter, until all parameters have a word.  From then on further
words are only reported as left over, and nothing makes the command line acceptable again.
-/
namespace CatalogConsole

/-- The ways in which a command line can be read. -/
inductive Reading
  | empty
  | unknown
  | complete
  | short
  | long
  deriving DecidableEq, Repr

namespace Registry

variable {α : Type} {r : Registry α} {argv : List String}

/-- **How a command line is read**, and with what result. -/
inductive Reads (r : Registry α) :
    List String → Reading → Except UsageError (Invocation α) → Prop
  /-- There are no words. -/
  | empty : Reads r [] .empty (.error .noCommand)
  /-- There is no command under the first word in lower case.  The word is reported as it is. -/
  | unknown {word : String} {args : List String} (absent : Text.lowercase word ∉ r.names) :
    Reads r (word :: args) .unknown (.error (.unknownCommand word))
  /-- There is a word for each parameter, and the words are taken as they are. -/
  | complete {word : String} {args : List String} {c : Command α}
    (found : r.lookup (Text.lowercase word) = some c) (fits : args.length = c.params.length) :
    Reads r (word :: args) .complete (.ok ⟨c, args, fits⟩)
  /-- Words are missing, and the first parameter without one is reported. -/
  | short {word : String} {args : List String} {c : Command α}
    (found : r.lookup (Text.lowercase word) = some c) (few : args.length < c.params.length) :
    Reads r (word :: args) .short (.error (.missingArgument c.params[args.length] c.usage))
  /-- Words are left over, and all of them are reported. -/
  | long {word : String} {args : List String} {c : Command α}
    (found : r.lookup (Text.lowercase word) = some c) (many : c.params.length < args.length) :
    Reads r (word :: args) .long
      (.error (.unexpectedArguments (args.drop c.params.length) c.usage))

/-- How a command line has been read, by its result. -/
def readingOf : Except UsageError (Invocation α) → Reading
  | .error .noCommand => .empty
  | .error (.unknownCommand _) => .unknown
  | .ok _ => .complete
  | .error (.missingArgument _ _) => .short
  | .error (.unexpectedArguments _ _) => .long

namespace Reads

variable {reading : Reading} {result : Except UsageError (Invocation α)}

/-- The result is what the command line resolves to. -/
theorem resolve_eq (h : r.Reads argv reading result) : r.resolve argv = result := by
  cases h with
  | empty => rfl
  | unknown absent =>
    rw [mem_names_iff, Option.not_isSome_iff_eq_none] at absent
    exact resolve_of_absent absent _
  | complete found fits => rw [resolve_of_found found, Command.invoke_of_fits]
  | short found few => rw [resolve_of_found found, Command.invoke_of_few]
  | long found many => rw [resolve_of_found found, Command.invoke_of_many _ many]

/-- So a command line is read in one way only. -/
theorem reading_eq (h : r.Reads argv reading result) : reading = readingOf (r.resolve argv) := by
  rw [h.resolve_eq]
  cases h with
  | empty | unknown _ | complete _ _ | short _ _ | long _ _ => rfl

end Reads

/-- **Every command line is read in some way**, with what it resolves to. -/
theorem reads_resolve (r : Registry α) (argv : List String) :
    ∃ reading, r.Reads argv reading (r.resolve argv) := by
  have reads : ∃ reading result, r.Reads argv reading result := by
    cases argv with
    | nil => exact ⟨_, _, .empty⟩
    | cons word args =>
      cases found : r.lookup (Text.lowercase word) with
      | none =>
        have absent : Text.lowercase word ∉ r.names := by
          rw [mem_names_iff, found]
          exact Bool.false_ne_true
        exact ⟨_, _, .unknown absent⟩
      | some c =>
        rcases Nat.lt_trichotomy args.length c.params.length with few | fits | many
        · exact ⟨_, _, .short found few⟩
        · exact ⟨_, _, .complete found fits⟩
        · exact ⟨_, _, .long found many⟩
  obtain ⟨reading, result, h⟩ := reads
  exact ⟨reading, h.resolve_eq ▸ h⟩

/-! ## Further words -/

section Extension
variable {word : String} {args : List String} {c : Command α}
  (found : r.lookup (Text.lowercase word) = some c)
include found

/-- If words are still missing with one more, the next parameter is reported. -/
theorem resolve_one_more_of_few (x : String) (few : args.length + 1 < c.params.length) :
    r.resolve (word :: args ++ [x]) =
      .error (.missingArgument c.params[args.length + 1] c.usage) := by
  have still : (args ++ [x]).length < c.params.length := by
    rw [List.length_append]
    exact few
  rw [List.cons_append, resolve_of_found found, Command.invoke_of_few c still]
  simp only [List.length_append, List.length_singleton]

/-- With as many more as are missing, a command line is accepted. -/
theorem resolve_more_of_fits {more : List String}
    (fits : args.length + more.length = c.params.length) :
    ∃ i, r.resolve (word :: args ++ more) = .ok i ∧ i.command = c ∧ i.args = args ++ more := by
  have all : (args ++ more).length = c.params.length := by rw [List.length_append, fits]
  rw [List.cons_append, resolve_of_found found, Command.invoke_of_fits c all]
  exact ⟨_, rfl, rfl, rfl⟩

/-- With more than that, the words behind those for the parameters are left over. -/
theorem resolve_more_of_many {more : List String}
    (many : c.params.length < args.length + more.length) :
    r.resolve (word :: args ++ more) =
      .error (.unexpectedArguments ((args ++ more).drop c.params.length) c.usage) := by
  have surplus : c.params.length < (args ++ more).length := by rwa [List.length_append]
  rw [List.cons_append, resolve_of_found found, Command.invoke_of_many c surplus]

end Extension

/-- A command line that is accepted, or has words left over, has a word for each parameter. -/
theorem enough_of_resolve
    (h : (∃ i, r.resolve argv = .ok i) ∨
      ∃ extra usage, r.resolve argv = .error (.unexpectedArguments extra usage)) :
    ∃ word args c, argv = word :: args ∧ r.lookup (Text.lowercase word) = some c ∧
      c.params.length ≤ args.length := by
  obtain ⟨reading, reads⟩ := r.reads_resolve argv
  rcases h with ⟨i, resolved⟩ | ⟨extra, usage, resolved⟩
  · rw [resolved] at reads
    cases reads with
    | complete found fits => exact ⟨_, _, _, rfl, found, Nat.le_of_eq fits.symm⟩
  · rw [resolved] at reads
    cases reads with
    | long found many => exact ⟨_, _, _, rfl, found, Nat.le_of_lt many⟩

end Registry

/-- **A command line resolves by the number of its words.**  It is read in just one of the five ways of
`Registry.Reads`, and that decides the result.

If a word is reported as missing, one further word moves the report to the next parameter, or is
accepted if there is none, and as many as are missing are accepted together, in order.  A command line
that has been accepted or has words left over is refused with any further words, and then the words
behind those for the parameters are reported, all of them and no others. -/
theorem resolved_by_number_of_words {α : Type} (r : Registry α) (argv : List String) :
    (∃! reading, ∃ result, r.Reads argv reading result) ∧
    (∀ reading result, r.Reads argv reading result → r.resolve argv = result) ∧
    (UsageError.noCommand.message = "No command given" ∧
      (∀ word, (UsageError.unknownCommand word).message = "Unknown command: " ++ word) ∧
      ∀ c : Command α,
        let usage := String.intercalate " " (c.name :: c.params.map fun p => "<" ++ p ++ ">")
        (∀ p, (UsageError.missingArgument p c.usage).message =
          "Missing required argument: " ++ p ++ " (usage: " ++ usage ++ ")") ∧
        ∀ extra, (UsageError.unexpectedArguments extra c.usage).message =
          "Unexpected argument(s): " ++ String.intercalate " " extra ++
            " (usage: " ++ usage ++ ")") ∧
    (∀ p usage, r.resolve argv = .error (.missingArgument p usage) →
      ∃ word args c, ∃ few : args.length < c.params.length, argv = word :: args ∧
        r.lookup (Text.lowercase word) = some c ∧ p = c.params[args.length] ∧ usage = c.usage ∧
        (∀ x, ∀ next : args.length + 1 < c.params.length,
          r.resolve (argv ++ [x]) =
            .error (.missingArgument c.params[args.length + 1] c.usage)) ∧
        (∀ x, args.length + 1 = c.params.length →
          ∃ i, r.resolve (argv ++ [x]) = .ok i ∧ i.command = c ∧ i.args = args ++ [x]) ∧
        ∀ more, more.length = c.params.length - args.length →
          ∃ i, r.resolve (argv ++ more) = .ok i ∧ i.command = c ∧ i.args = args ++ more) ∧
    ((∃ i, r.resolve argv = .ok i) ∨
        (∃ extra usage, r.resolve argv = .error (.unexpectedArguments extra usage)) →
      ∃ word args c, argv = word :: args ∧ r.lookup (Text.lowercase word) = some c ∧
        ∀ more, more ≠ [] → r.resolve (argv ++ more) =
          .error (.unexpectedArguments ((args ++ more).drop c.params.length) c.usage)) := by
  obtain ⟨reading, reads⟩ := r.reads_resolve argv
  refine ⟨⟨reading, ⟨_, reads⟩, ?_⟩, fun _ _ h => h.resolve_eq,
    ⟨rfl, fun _ => rfl, fun c => ⟨fun _ => rfl, fun _ => rfl⟩⟩, ?_, ?_⟩
  · rintro reading' ⟨result, reads'⟩
    rw [reads'.reading_eq, reads.reading_eq]
  · intro p usage missing
    rw [missing] at reads
    cases reads with
    | short found few =>
      refine ⟨_, _, _, few, rfl, found, rfl, rfl, fun x next => ?_, fun x last => ?_,
        fun more rest => ?_⟩
      · exact Registry.resolve_one_more_of_few found x next
      · exact Registry.resolve_more_of_fits found last
      · exact Registry.resolve_more_of_fits found (by omega)
  · intro enough
    obtain ⟨word, args, c, rfl, found, all⟩ := Registry.enough_of_resolve enough
    refine ⟨word, args, c, rfl, found, fun more some => ?_⟩
    have further : 0 < more.length := List.length_pos_iff.mpr some
    exact Registry.resolve_more_of_many found (by omega)

/-- Word by word, a command with two parameters misses the first and the second, is accepted, and has
words left over. -/
theorem product_set_created_word_by_word :
    let r := Builtin.registry
    let c := Builtin.createProductSet
    r.resolve [c.name] = .error (.missingArgument "productSetId" c.usage) ∧
      r.resolve [c.name, "shoes"] = .error (.missingArgument "productSetDisplayName" c.usage) ∧
      (∃ i, r.resolve [c.name, "shoes", "Shoes"] = .ok i ∧ i.args = ["shoes", "Shoes"]) ∧
      r.resolve [c.name, "shoes", "Shoes", "x", "y"] =
        .error (.unexpectedArguments ["x", "y"] c.usage) := by
  intro r c
  have builtin : c ∈ Builtin.commands := by simp [c, Builtin.commands]
  have found : r.lookup (Text.lowercase c.name) = some c := by
    rw [Builtin.lowercase_name builtin]
    exact Builtin.lookup_name builtin
  have few : ([] : List String).length < c.params.length := by decide
  have first : r.resolve [c.name] = .error (.missingArgument "productSetId" c.usage) :=
    (Registry.Reads.short found few).resolve_eq
  obtain ⟨-, -, -, missing, -⟩ := resolved_by_number_of_words r [c.name]
  obtain ⟨_, _, _, -, eq, found', -, -, next, -, both⟩ := missing _ _ first
  obtain ⟨rfl, rfl⟩ := List.cons.inj eq
  obtain rfl := Option.some.inj (found.symm.trans found')
  obtain ⟨i, accepted, -, args⟩ := both ["shoes", "Shoes"] rfl
  obtain ⟨-, -, -, -, full⟩ := resolved_by_number_of_words r [c.name, "shoes", "Shoes"]
  obtain ⟨_, _, _, eq, found', surplus⟩ := full (.inl ⟨i, accepted⟩)
  obtain ⟨rfl, rfl⟩ := List.cons.inj eq
  obtain rfl := Option.some.inj (found.symm.trans found')
  exact ⟨first, next "shoes" (Nat.lt_succ_self 1), ⟨i, accepted, args⟩,
    surplus ["x", "y"] (List.cons_ne_nil _ _)⟩

end CatalogConsole
