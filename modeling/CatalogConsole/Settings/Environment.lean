import CatalogConsole.Text.Blank

/-! # Environments

An environment gives values to the names of variables.  It can be completed by a text of defaults,
which assigns values to names.  That is left to a loader, which is no part of this program:
`Loader.Documented` says what is documented of it.  A variable that the environment has already, even
with an empty value, is left as it is, and for any other variable the last assignment to it decides.  A
default that no variable can hold is an error, and an environment can turn the loader off.

`Loader.lineReader` is the loader that is put in here.  It reads texts of this form, in which each line
assigns a value to a name:

* blanks and the word `export` may stand in front of the name, and blanks around the equals sign;
* a name may stand in single marks;
* a value in single or double marks is taken as it is, and only a comment may follow it;
* any other value ends before a blank and a number sign, or at the end of the line, and blanks at
  its end do not count;
* a name without an equals sign assigns no value, and a line that reads in no such way is void;
* a byte order mark in front of the text is no part of it.
-/
namespace CatalogConsole

open Text

/-- The values of variables, by name. -/
abbrev Environment := String → Option String

/-- What a line of defaults says about a name: its value, or that it has none. -/
structure Assignment where
  name : String
  value : Option String
  deriving DecidableEq, Repr

namespace Assignment

/-- The lines of a text.  A line feed and a carriage return each end one, so that a pair of them
leaves an empty line between. -/
def lines : List Char → List (List Char)
  | [] => [[]]
  | c :: rest =>
    if c = '\n' ∨ c = '\r' then [] :: lines rest
    else
      match lines rest with
      | [] => [[c]]
      | line :: more => (c :: line) :: more

/-- A character that a name can hold. -/
def isNameChar (c : Char) : Bool :=
  !(c = '=' || c = '#' || isLayout c)

/-- The word that may stand in front of a name. -/
def exportWord : List Char := "export".toList

/-- The text without the word `export` and the blanks after it, if it starts like that. -/
def withoutExport (s : List Char) : List Char :=
  let rest := s.drop exportWord.length
  if exportWord.isPrefixOf s && rest.head?.any isLayout then rest.dropWhile isLayout else s

/-- The name at the start of a text, if there is one, and what follows it. -/
def name? : List Char → Option (List Char × List Char)
  | '\x27' :: rest =>
    match rest.takeWhile (· ≠ '\x27'), rest.dropWhile (· ≠ '\x27') with
    | c :: name, _ :: after => some (c :: name, after)
    | _, _ => none
  | s =>
    match s.takeWhile isNameChar with
    | [] => none
    | c :: name => some (c :: name, s.dropWhile isNameChar)

/-- Whether nothing but a comment follows. -/
def isOver (s : List Char) : Bool :=
  match s.dropWhile isLayout with
  | [] => true
  | c :: _ => c = '#'

/-- The text before the first number sign that comes after a blank. -/
def uncommented : List Char → List Char
  | c :: '#' :: rest => if isLayout c then [] else c :: uncommented ('#' :: rest)
  | c :: rest => c :: uncommented rest
  | [] => []

/-- The value in a text that starts behind a mark, if the same mark ends it. -/
def marked? (mark : Char) (s : List Char) : Option (List Char) :=
  match s.dropWhile (· ≠ mark) with
  | [] => none
  | _ :: after => if isOver after then some (s.takeWhile (· ≠ mark)) else none

/-- The value that the text behind an equals sign stands for, if it is one.  A number sign behind
blanks starts a comment there too, and the value in front of it is empty. -/
def value? (s : List Char) : Option (List Char) :=
  match s.dropWhile isLayout with
  | '\x27' :: rest => marked? '\x27' rest
  | '\x22' :: rest => marked? '\x22' rest
  | _ => some (trimmed isLayout (uncommented s))

/-- The assignment in a line, if there is one. -/
def ofLine? (line : List Char) : Option Assignment := do
  let (name, rest) ← name? (withoutExport (line.dropWhile isLayout))
  match rest.dropWhile isLayout with
  | '=' :: right =>
    let value ← value? right
    return ⟨String.ofList name, some (String.ofList value)⟩
  | rest => if isOver rest then some ⟨String.ofList name, none⟩ else none

/-- The text without a byte order mark at its start. -/
def withoutOrderMark : List Char → List Char
  | '\ufeff' :: rest => rest
  | s => s

/-- The assignments in a text of defaults, in order. -/
def ofText (text : String) : List Assignment :=
  (lines (withoutOrderMark text.toList)).filterMap ofLine?

/-- The value that the last assignment to a name gives it. -/
def lastValue? (assignments : List Assignment) (name : String) : Option String :=
  (assignments.reverse.find? (·.name = name)).bind (·.value)

end Assignment

/-- Why no variable can have a name and a value. -/
inductive VariableError
  /-- The NUL character ends every text of an environment. -/
  | nulCharacter
  /-- The first equals sign ends every name of an environment. -/
  | equalsInName
  deriving DecidableEq, Repr

namespace VariableError

/-- The error in words. -/
def message : VariableError → String
  | nulCharacter => "embedded null byte"
  | equalsInName => "illegal environment variable name"

/-- What keeps a variable from having this name and this value, if anything does. -/
def of? (name value : String) : Option VariableError :=
  if '\x00' ∈ name.toList ∨ '\x00' ∈ value.toList then some nulCharacter
  else if '=' ∈ name.toList then some equalsInName
  else none

end VariableError

namespace Environment

/-- The environment with these names and values. -/
def ofList (pairs : List (String × String)) : Environment :=
  fun name => pairs.lookup name

/-- The variable that can turn the loading of defaults off. -/
def refusalVariable : String := "PYTHON_DOTENV_DISABLED"

/-- The words by which it does so. -/
def refusalWords : List (List Char) :=
  ["1", "true", "t", "yes", "y"].map String.toList

/-- A letter without its case, as far as it occurs in those words; the long s is an s. -/
def caseless (c : Char) : Char :=
  if c = '\u017f' then 's' else c.toLower

/-- Whether the environment says that there are to be no defaults. -/
def refusesDefaults (env : Environment) : Bool :=
  (env refusalVariable).any fun value => refusalWords.contains (value.toList.map caseless)

/-- The first error among the assignments to variables that the environment does not have. -/
def fault? (env : Environment) (assignments : List Assignment) : Option VariableError :=
  assignments.findSome? fun a =>
    if (env a.name).isSome then none
    else (Assignment.lastValue? assignments a.name).bind (VariableError.of? a.name)

/-- The environment completed by assignments to variables that it does not have. -/
def completed (env : Environment) (assignments : List Assignment) : Environment :=
  fun name => (env name).or (Assignment.lastValue? assignments name)

theorem completed_of_present {env : Environment} {name value : String}
    (h : env name = some value) (assignments : List Assignment) :
    env.completed assignments name = some value := by
  simp [completed, h]

theorem completed_of_absent {env : Environment} {name : String} (h : env name = none)
    (assignments : List Assignment) :
    env.completed assignments name = Assignment.lastValue? assignments name := by
  simp [completed, h]

end Environment

/-- Loads texts of defaults into environments. -/
structure Loader where
  /-- The assignments that it finds in a text, in order.  The values may depend on the environment. -/
  assignments : Environment → String → List Assignment
  /-- Whether an environment turns it off. -/
  isOff : Environment → Bool
  /-- The environment completed by a text of defaults, or why it cannot be. -/
  complete : Environment → String → Except VariableError Environment

/-- A text without the end of a line. -/
def IsLine (s : String) : Prop := ∀ c ∈ s.toList, c ≠ '\n' ∧ c ≠ '\r'

/-- A line with nothing on it but a comment, perhaps behind blanks. -/
def IsComment (s : String) : Prop :=
  IsLine s ∧ ∃ rest, s.toList.dropWhile (· = ' ') = '#' :: rest

/-- **What is documented of a loader.** -/
structure Loader.Documented (loader : Loader) : Prop where
  /-- Where it is turned off, nothing is loaded. -/
  off : ∀ env text, loader.isOff env = true → loader.complete env text = .ok env
  /-- A variable that is there, even with an empty value, is never changed. -/
  keeps : ∀ env text env', loader.complete env text = .ok env' →
    ∀ name value, env name = some value → env' name = some value
  /-- Any other variable gets the value of the last assignment to it. -/
  adds : ∀ env text env', loader.isOff env = false → loader.complete env text = .ok env' →
    ∀ name, env name = none →
      env' name = Assignment.lastValue? (loader.assignments env text) name
  /-- A text is loaded if every variable that is not there can hold the value that it gets. -/
  loads : ∀ env text, loader.isOff env = false →
    ((∃ env', loader.complete env text = .ok env') ↔ ∀ name value, env name = none →
      Assignment.lastValue? (loader.assignments env text) name = some value →
      VariableError.of? name value = none)
  /-- Otherwise the error is that of a variable that cannot. -/
  fails : ∀ env text e, loader.complete env text = .error e → ∃ name value, env name = none ∧
    Assignment.lastValue? (loader.assignments env text) name = some value ∧
    VariableError.of? name value = some e
  /-- A comment assigns nothing. -/
  comment : ∀ env line, IsComment line → loader.assignments env ("\n" ++ line) = []

/-- The loader that reads a text as it is said above. -/
def Loader.lineReader : Loader where
  assignments _ := Assignment.ofText
  isOff := Environment.refusesDefaults
  complete env text :=
    if env.refusesDefaults then .ok env
    else
      match env.fault? (Assignment.ofText text) with
      | some e => .error e
      | none => .ok (env.completed (Assignment.ofText text))

end CatalogConsole
