import CatalogConsole.Command
import CatalogConsole.Text.Lowercase

/-! # The registry of commands

A registry holds at most one command of each name and keeps them in the order of their names.  The
name that is asked for is taken in lower case, while commands are kept under their names as they
are.  `lookup_register` says what registering a command changes.

`Registry.step` does one thing with a registry: it registers a command, or answers an inquiry.
-/
namespace CatalogConsole

variable {α : Type}

/-- A collection of commands in the order of their names, each name at most once. -/
structure Registry (α : Type) where
  commands : List (Command α)
  ordered : commands.Pairwise fun c d => c.name < d.name

namespace Registry

/-- Puts a command in its place, instead of one that has the same name. -/
def insertInto (c : Command α) : List (Command α) → List (Command α)
  | [] => [c]
  | d :: rest =>
    if c.name < d.name then c :: d :: rest
    else if c.name = d.name then c :: rest
    else d :: insertInto c rest

theorem mem_insertInto {c e : Command α} {commands : List (Command α)}
    (h : e ∈ insertInto c commands) : e = c ∨ e ∈ commands := by
  induction commands with
  | nil => simpa [insertInto] using h
  | cons d rest ih =>
    simp only [insertInto] at h
    split at h
    · simpa using h
    · split at h
      · rcases List.mem_cons.mp h with h | h
        · exact .inl h
        · exact .inr (List.mem_cons_of_mem _ h)
      · rcases List.mem_cons.mp h with h | h
        · exact .inr (h ▸ List.mem_cons_self)
        · exact (ih h).imp id (List.mem_cons_of_mem _)

theorem lt_of_not_lt_of_ne {s t : String} (h : ¬ s < t) (ne : s ≠ t) : t < s := by
  refine String.not_le.mp fun le => ne (String.le_antisymm le ?_)
  exact String.not_lt.mp h

theorem ordered_insertInto (c : Command α) {commands : List (Command α)}
    (ordered : commands.Pairwise fun c d => c.name < d.name) :
    (insertInto c commands).Pairwise fun c d => c.name < d.name := by
  induction commands with
  | nil => simp [insertInto]
  | cons d rest ih =>
    obtain ⟨least, ordered⟩ := List.pairwise_cons.mp ordered
    simp only [insertInto]
    split
    · rename_i lt
      refine List.pairwise_cons.mpr ⟨fun e he => ?_, List.pairwise_cons.mpr ⟨least, ordered⟩⟩
      rcases List.mem_cons.mp he with rfl | he
      · exact lt
      · exact String.lt_trans lt (least e he)
    · rename_i not_lt
      split
      · rename_i eq
        exact List.pairwise_cons.mpr ⟨fun e he => eq ▸ least e he, ordered⟩
      · rename_i ne
        refine List.pairwise_cons.mpr ⟨fun e he => ?_, ih ordered⟩
        rcases mem_insertInto he with rfl | he
        · exact lt_of_not_lt_of_ne not_lt ne
        · exact least e he

/-- The registry without commands. -/
def empty : Registry α := ⟨[], List.Pairwise.nil⟩

/-- The registry with one more command, which takes the place of one with the same name. -/
def register (r : Registry α) (c : Command α) : Registry α :=
  ⟨insertInto c r.commands, ordered_insertInto c r.ordered⟩

/-- The registry with these commands, registered in this order. -/
def ofList (commands : List (Command α)) : Registry α :=
  commands.foldl register empty

/-- A registry holds no other commands than those that have been registered. -/
theorem mem_of_mem_ofList {c : Command α} {commands : List (Command α)}
    (h : c ∈ (ofList commands).commands) : c ∈ commands := by
  -- the induction is on the commands that are still to be registered
  have registered (rest : List (Command α)) (r : Registry α)
      (hc : c ∈ (rest.foldl register r).commands) : c ∈ r.commands ∨ c ∈ rest := by
    induction rest generalizing r with
    | nil => exact .inl hc
    | cons d rest ih =>
      rcases ih (r.register d) hc with before | later
      · rcases mem_insertInto before with rfl | there
        · exact .inr List.mem_cons_self
        · exact .inl there
      · exact .inr (List.mem_cons_of_mem _ later)
  rcases registered commands empty h with none | some
  · cases none
  · exact some

/-- The command under exactly this name. -/
def lookup (r : Registry α) (name : String) : Option (Command α) :=
  r.commands.find? (·.name = name)

/-- The command that is asked for by this word. -/
def get? (r : Registry α) (word : String) : Option (Command α) :=
  r.lookup (Text.lowercase word)

theorem find?_insertInto (c : Command α) (commands : List (Command α)) (name : String) :
    (insertInto c commands).find? (·.name = name) =
      if c.name = name then some c else commands.find? (·.name = name) := by
  induction commands with
  | nil => by_cases h : c.name = name <;> simp [insertInto, h]
  | cons d rest ih =>
    simp only [insertInto]
    split
    · by_cases h : c.name = name <;> simp [h]
    · split
      · by_cases h : c.name = name <;> simp_all
      · by_cases h : d.name = name <;> simp_all

@[simp] theorem lookup_empty (name : String) : (empty : Registry α).lookup name = none := rfl

/-- Under the name of a command that has been registered there is that command, and under any other
name there is what was there before. -/
theorem lookup_register (r : Registry α) (c : Command α) (name : String) :
    (r.register c).lookup name = if c.name = name then some c else r.lookup name :=
  find?_insertInto c r.commands name

/-- The names of all commands, in order. -/
def names (r : Registry α) : List String :=
  r.commands.map (·.name)

/-- The lines of the help text. -/
def helpLines (r : Registry α) : List String :=
  "Available commands:" :: r.commands.map (·.helpLine) ++ ["  help - Show this message"]

/-- The help text. -/
def helpText (r : Registry α) : String :=
  String.intercalate "\n" r.helpLines

/-- Finds the command that the first word asks for, and calls it with the other words. -/
def resolve (r : Registry α) : List String → Except UsageError (Invocation α)
  | [] => .error .noCommand
  | word :: args =>
    match r.get? word with
    | none => .error (.unknownCommand word)
    | some c => c.invoke args

section Resolve
variable {r : Registry α} {word : String}

theorem resolve_of_absent (absent : r.get? word = none) (args : List String) :
    r.resolve (word :: args) = .error (.unknownCommand word) := by
  simp only [resolve, absent]

theorem resolve_of_found {c : Command α} (found : r.get? word = some c) (args : List String) :
    r.resolve (word :: args) = c.invoke args := by
  simp only [resolve, found]

/-- A command line that makes sense calls the command that its first word asks for with the other
words. -/
theorem resolve_eq_ok_iff {argv : List String} {i : Invocation α} :
    r.resolve argv = .ok i ↔ ∃ word, argv = word :: i.args ∧ r.get? word = some i.command := by
  constructor
  · intro resolved
    match argv with
    | [] => cases resolved
    | word :: args =>
      cases found : r.get? word with
      | none =>
        rw [resolve_of_absent found] at resolved
        cases resolved
      | some c =>
        rw [resolve_of_found found] at resolved
        obtain ⟨rfl, rfl⟩ := Command.invoke_eq_ok_iff.mp resolved
        exact ⟨word, rfl, found⟩
  · rintro ⟨word, rfl, found⟩
    rw [resolve_of_found found]
    exact Command.invoke_eq_ok_iff.mpr ⟨rfl, rfl⟩

end Resolve

end Registry

/-- What a registry can be asked. -/
inductive Inquiry
  /-- Which command a word asks for. -/
  | get (word : String)
  | names
  | help
  /-- With which words the command that a word asks for is called. -/
  | parse (word : String) (args : List String)
  /-- Which command a command line asks for, and how it is called. -/
  | resolve (argv : List String)
  deriving DecidableEq, Repr

/-- What a registry answers. -/
inductive Finding (α : Type)
  | command (found : Option (Command α))
  | names (names : List String)
  | help (text : String)
  | words (parsed : Option (Except UsageError (List String)))
  | invocation (resolved : Except UsageError (Invocation α))

namespace Registry

/-- The answer to an inquiry. -/
def answer (r : Registry α) : Inquiry → Finding α
  | .get word => .command (r.get? word)
  | .names => .names r.names
  | .help => .help r.helpText
  | .parse word args => .words ((r.get? word).map fun c => (c.invoke args).map (·.args))
  | .resolve argv => .invocation (r.resolve argv)

/-- What can be done with a registry. -/
inductive Step (α : Type)
  | register (c : Command α)
  | ask (inquiry : Inquiry)

/-- The registry after a step, and the answer if the step is an inquiry. -/
def step (r : Registry α) : Step α → Registry α × Option (Finding α)
  | .register c => (r.register c, none)
  | .ask inquiry => (r, some (r.answer inquiry))

end Registry

end CatalogConsole
