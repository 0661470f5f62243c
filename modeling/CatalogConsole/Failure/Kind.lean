/-! # Kinds of fault

What goes wrong in a program is told apart by kind, and each kind has a name that a reader of its
reports knows it by.
-/
namespace CatalogConsole

/-- The kinds of fault that do not come from the client library. -/
inductive FaultKind
  /-- A command line that makes no sense. -/
  | usage
  /-- Settings that are missing. -/
  | configuration
  /-- A value of the right type that is not acceptable. -/
  | value
  /-- A value of the wrong type. -/
  | type
  /-- A number that is too large for its purpose. -/
  | overflow
  /-- A key that is not there. -/
  | key
  /-- Anything else. -/
  | runtime
  deriving DecidableEq, Repr

/-- The name of a kind of fault. -/
def FaultKind.name : FaultKind → String
  | usage => "UsageError"
  | configuration => "ConfigError"
  | value => "ValueError"
  | type => "TypeError"
  | overflow => "OverflowError"
  | key => "KeyError"
  | runtime => "RuntimeError"

end CatalogConsole
