import CatalogConsole.Proofs.RegistryHistory

/-! # Which commands are in reach

A command is kept under its name as it is, and a word is put into lower case before it is looked up.
So there can be commands that are listed and that no word gets: those whose names are not in lower
case (`Registry.inReach_iff`).  A name in lower case is its own lower case, so it gets its command
itself, and so does every word that becomes this name, whatever its capitals.

That a name is found in this way at all rests on `Text.lowercase_lowercase`: what a word becomes is in
lower case, so it is the name of a command in reach or of none.
-/
namespace CatalogConsole

namespace Registry

variable {α : Type} {r : Registry α} {c : Command α} {name word : String}

/-- What a word gets has the word in lower case for its name. -/
theorem name_of_get (got : r.get? word = some c) : c.name = Text.lowercase word :=
  (lookup_eq_some_iff.mp got).2

/-- The words that get a command are those that become its name. -/
theorem get_eq_some_iff_of_held (held : r.lookup name = some c) :
    r.get? word = some c ↔ Text.lowercase word = name := by
  constructor
  · intro got
    rw [← name_of_get got]
    exact (lookup_eq_some_iff.mp held).2
  · rintro rfl
    exact held

end Registry

end CatalogConsole
