/-! # Commands

A command is called by its name, followed by one word for each of its parameters.  An
`Invocation` is a command together with words that fit its parameters; `Command.invoke` gives one
or says what is wrong with the words.
-/
namespace CatalogConsole

variable {α β : Type}

/-- What is wrong with a command line. -/
inductive UsageError
  | noCommand
  | unknownCommand (word : String)
  | missingArgument (parameter usage : String)
  | unexpectedArguments (extra : List String) (usage : String)
  deriving DecidableEq, Repr

/-- The error in words. -/
def UsageError.message : UsageError → String
  | noCommand => "No command given"
  | unknownCommand word => "Unknown command: " ++ word
  | missingArgument parameter usage =>
    "Missing required argument: " ++ parameter ++ " (usage: " ++ usage ++ ")"
  | unexpectedArguments extra usage =>
    "Unexpected argument(s): " ++ String.intercalate " " extra ++ " (usage: " ++ usage ++ ")"

/-- A command: its name, what it is for, the names of its parameters, and what it stands for when
it is called with one word for each of them. -/
structure Command (α : Type) where
  name : String
  help : String
  params : List String
  action : (args : List String) → args.length = params.length → α

/-- A command with words that fit its parameters. -/
structure Invocation (α : Type) where
  command : Command α
  args : List String
  fits : args.length = command.params.length

/-- What the command stands for when it is called with these words. -/
def Invocation.action (i : Invocation α) : α :=
  i.command.action i.args i.fits

namespace Command

/-- The name of the command and its parameters. -/
def usage (c : Command α) : String :=
  String.intercalate " " (c.name :: c.params.map fun p => "<" ++ p ++ ">")

/-- The line about the command in the help text. -/
def helpLine (c : Command α) : String :=
  "  " ++ c.usage ++ " - " ++ c.help

/-- The command with something else that it stands for. -/
def map (f : α → β) (c : Command α) : Command β :=
  ⟨c.name, c.help, c.params, fun args fits => f (c.action args fits)⟩

/-- Calls the command with these words.  If there are too few, the first parameter without a word
is named; if there are too many, the words left over are listed. -/
def invoke (c : Command α) (args : List String) : Except UsageError (Invocation α) :=
  if few : args.length < c.params.length then
    .error (.missingArgument c.params[args.length] c.usage)
  else if many : c.params.length < args.length then
    .error (.unexpectedArguments (args.drop c.params.length) c.usage)
  else .ok ⟨c, args, by omega⟩

theorem invoke_of_fits (c : Command α) {args : List String}
    (fits : args.length = c.params.length) : c.invoke args = .ok ⟨c, args, fits⟩ := by
  simp [invoke, fits]

theorem invoke_of_few (c : Command α) {args : List String} (few : args.length < c.params.length) :
    c.invoke args = .error (.missingArgument c.params[args.length] c.usage) := by
  rw [invoke, dif_pos few]

theorem invoke_of_many (c : Command α) {args : List String}
    (many : c.params.length < args.length) :
    c.invoke args = .error (.unexpectedArguments (args.drop c.params.length) c.usage) := by
  rw [invoke, dif_neg (Nat.not_lt_of_gt many), dif_pos many]

/-- A command that can be called with some words is called with just these. -/
theorem invoke_eq_ok_iff {c : Command α} {args : List String} {i : Invocation α} :
    c.invoke args = .ok i ↔ i.command = c ∧ i.args = args := by
  constructor
  · intro invoked
    rcases Nat.lt_trichotomy args.length c.params.length with few | fits | many
    · rw [invoke_of_few c few] at invoked
      cases invoked
    · rw [invoke_of_fits c fits] at invoked
      cases invoked
      exact ⟨rfl, rfl⟩
    · rw [invoke_of_many c many] at invoked
      cases invoked
  · rintro ⟨rfl, rfl⟩
    exact invoke_of_fits i.command i.fits

end Command

end CatalogConsole
