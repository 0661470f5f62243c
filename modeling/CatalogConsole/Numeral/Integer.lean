import CatalogConsole.Text.Blank
import CatalogConsole.Text.DecimalDigit

/-! # Integer numerals

The numeral of an integer is an optional sign and one or more decimal digits, which may come from
any script and from several at once.  A single low line may stand between two digits, and blanks
around the numeral do not count.  `integer?` reads numerals of any length.

Reading and writing take time that grows with the square of the number of digits, so a text that
starts with too many of them is to be refused, and an integer with too many is not to be written.
`excess?` says how many digits of a text are too many, and `printed?` writes the integers that may be
written.
-/
namespace CatalogConsole.Numeral

open Text

/-- The number with the decimal digits of `n` followed by those of the text, in which a low line
may come before a digit. -/
def digitsAfter? (n : Nat) : List Char → Option Nat
  | [] => some n
  | '_' :: c :: rest => do
    let d ← digitValue? c
    digitsAfter? (10 * n + d) rest
  | c :: rest => do
    let d ← digitValue? c
    digitsAfter? (10 * n + d) rest

/-- The number that one or more digits stand for. -/
def digits? : List Char → Option Nat
  | [] => none
  | c :: rest => do
    let d ← digitValue? c
    digitsAfter? d rest

/-- The integer that digits behind an optional sign stand for. -/
def signed? : List Char → Option Int
  | '-' :: rest => (digits? rest).map fun n => -(n : Int)
  | '+' :: rest => (digits? rest).map Int.ofNat
  | rest => (digits? rest).map Int.ofNat

/-- The integer that a text stands for, if it is a numeral. -/
def integer? (s : String) : Option Int :=
  signed? (trimmed isBlank s.toList)

/-- The largest number of digits of a numeral that is read or written. -/
def digitLimit : Nat := 4300

/-- The limit in words. -/
def limitText : String :=
  "Exceeds the limit (" ++ toString digitLimit ++ " digits) for integer string conversion"

/-- What can be done about the limit, in words. -/
def limitAdvice : String :=
  "use sys.set_int_max_str_digits() to increase the limit"

/-- An integer that has no more digits than are written. -/
def Printable (n : Int) : Prop :=
  (Nat.toDigits 10 n.natAbs).length ≤ digitLimit

instance : DecidablePred Printable := fun n =>
  inferInstanceAs (Decidable ((Nat.toDigits 10 n.natAbs).length ≤ digitLimit))

/-- The smallest number that has more. -/
def firstLong : Int := Int.ofNat (Nat.pow 10 digitLimit)

/-- The numeral of an integer in decimal digits, behind a minus sign if it is negative, unless it has
too many digits. -/
def printed? (n : Int) : Option String :=
  if Printable n then some (toString n) else none

/-- A decimal digit, or the low line that may stand between two of them. -/
def isNumeralChar (c : Char) : Bool :=
  c = '_' || (digitValue? c).isSome

/-- The text behind a sign, or all of it if it starts with none. -/
def withoutSign : List Char → List Char
  | '-' :: rest => rest
  | '+' :: rest => rest
  | rest => rest

/-- The number of digits with which the numeral at the start of a text exceeds the limit, if it
does.  Zeros at the front count like all other digits, and low lines do not.  What follows the
numeral does not matter, but low lines in the wrong places mean that there is none. -/
def excess? (s : String) : Option Nat :=
  let run := (withoutSign (trimmed isBlank s.toList)).takeWhile isNumeralChar
  let count := run.countP (· ≠ '_')
  if digitLimit < count && (digits? run).isSome then some count else none

/-- An integer can be written if and only if it is smaller than that, whatever its sign. -/
theorem printable_iff {n : Int} : Printable n ↔ n.natAbs < firstLong.natAbs := by
  have positive : 0 < digitLimit := by decide
  rw [Printable, firstLong]
  -- the number itself is never computed
  generalize digitLimit = k at *
  exact Nat.length_toDigits_le_iff (by decide) positive

theorem printable_of_natAbs_le {n m : Int} (le : n.natAbs ≤ m.natAbs) (printable : Printable m) :
    Printable n :=
  printable_iff.mpr (Nat.lt_of_le_of_lt le (printable_iff.mp printable))

theorem not_printable_of_firstLong_le {n : Int} (le : firstLong ≤ n) : ¬ Printable n := by
  have nonneg : 0 ≤ firstLong := Int.natCast_nonneg _
  rw [printable_iff]
  omega

theorem not_printable_firstLong : ¬ Printable firstLong :=
  not_printable_of_firstLong_le (Int.le_refl _)

theorem printed?_of_printable {n : Int} (printable : Printable n) : printed? n = some (toString n) :=
  if_pos printable

theorem printed?_of_not_printable {n : Int} (long : ¬ Printable n) : printed? n = none :=
  if_neg long

@[simp] theorem digitsAfter?_nil (n : Nat) : digitsAfter? n [] = some n := by
  simp [digitsAfter?]

@[simp] theorem digits?_nil : digits? [] = none := rfl

theorem digits?_cons (c : Char) (rest : List Char) :
    digits? (c :: rest) = (digitValue? c).bind (digitsAfter? · rest) := rfl

end CatalogConsole.Numeral
