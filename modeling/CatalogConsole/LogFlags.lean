/-! # Log flags

The words in front of a command line that ask for more or for fewer diagnostics.  They count only
where they come before every other word, so the flags of a command line are the longest run of them
at its start.
-/
namespace CatalogConsole

/-- Which diagnostics are asked for. -/
structure LogFlags where
  verbose : Bool := false
  quiet : Bool := false
  deriving DecidableEq, Repr

namespace LogFlags

/-- The words that ask for all diagnostics. -/
def verboseWords : List String := ["-v", "--verbose"]

/-- The words that ask for warnings only. -/
def quietWords : List String := ["-q", "--quiet"]

/-- Whether a word is a log flag. -/
def isFlag (word : String) : Bool :=
  verboseWords.contains word || quietWords.contains word

/-- What a list of log flags asks for. -/
def ofWords (words : List String) : LogFlags where
  verbose := words.any verboseWords.contains
  quiet := words.any quietWords.contains

/-- The log flags at the start of a command line, and the rest of it. -/
def split (argv : List String) : LogFlags × List String :=
  (ofWords (argv.takeWhile isFlag), argv.dropWhile isFlag)

@[simp] theorem ofWords_nil : ofWords [] = {} := rfl

@[simp] theorem split_fst (argv : List String) :
    (split argv).1 = ofWords (argv.takeWhile isFlag) := rfl

@[simp] theorem split_snd (argv : List String) : (split argv).2 = argv.dropWhile isFlag := rfl

/-- There are four log flags. -/
theorem isFlag_iff {word : String} :
    isFlag word = true ↔ word ∈ ["-v", "--verbose", "-q", "--quiet"] := by
  simp [isFlag, verboseWords, quietWords, or_assoc]

theorem verbose_ofWords_iff {words : List String} :
    (ofWords words).verbose = true ↔ "-v" ∈ words ∨ "--verbose" ∈ words := by
  simp [ofWords, verboseWords, List.any_eq_true, and_or_left, exists_or]

theorem quiet_ofWords_iff {words : List String} :
    (ofWords words).quiet = true ↔ "-q" ∈ words ∨ "--quiet" ∈ words := by
  simp [ofWords, quietWords, List.any_eq_true, and_or_left, exists_or]

/-- Flags in front of a command line that starts with none are split off as they are. -/
theorem split_append {flags words : List String} (areFlags : ∀ word ∈ flags, isFlag word = true)
    (others : ∀ word ∈ words.head?, isFlag word = false) :
    split (flags ++ words) = (ofWords flags, words) := by
  have taken : words.takeWhile isFlag = [] ∧ words.dropWhile isFlag = words := by
    cases words with
    | nil => exact ⟨rfl, rfl⟩
    | cons word rest =>
      have other := others word rfl
      simp [other]
  rw [split, List.takeWhile_append_of_pos areFlags, List.dropWhile_append_of_pos areFlags, taken.1,
    taken.2, List.append_nil]

end LogFlags

end CatalogConsole
