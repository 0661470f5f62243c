import CatalogConsole.Numeral.Integer
import CatalogConsole.Time.Fault

/-! # Failed conversions

A value that comes from outside may not have the form that is asked for, and what is to be printed
may not have a text.  `ConversionError` says why, `ConversionError.kind` which kind of fault that is,
and `ConversionError.message` puts it into words.
-/
namespace CatalogConsole

/-- The values that are neither numbers nor text. -/
inductive NonNumeral
  | null
  | list
  | record
  deriving DecidableEq, Repr

/-- Why a value could not be converted. -/
inductive ConversionError
  /-- A text that is not the numeral of an integer. -/
  | malformed (literal : String)
  /-- A text that starts with more digits than are read. -/
  | tooManyDigits (count : Nat)
  /-- The floating-point value that is no number has no whole part. -/
  | notANumber
  /-- An infinity has no whole part. -/
  | infinite
  /-- A value of a kind that never stands for a number. -/
  | unsuited (kind : NonNumeral)
  /-- A time that does not exist. -/
  | time (fault : TimeFault)
  /-- An integer with more digits than are written. -/
  | unprintable
  /-- What has to be printed has nothing that could stand for its text. -/
  | textless
  deriving DecidableEq, Repr

/-- The name of a kind of value, as messages give it. -/
def NonNumeral.name : NonNumeral → String
  | null => "NoneType"
  | list => "list"
  | record => "dict"

namespace ConversionError

/-- No more than this many characters of a quoted literal are shown. -/
def shownLength : Nat := 200

/-- The kind of fault that it is. -/
def kind : ConversionError → FaultKind
  | malformed _ | tooManyDigits _ | notANumber | unprintable => .value
  | infinite => .overflow
  | unsuited _ | textless => .type
  | time fault => fault.kind

/-- The error in words. -/
def message : ConversionError → String
  | malformed literal =>
    "invalid literal for int() with base 10: " ++
      String.ofList ((Text.quoted literal).toList.take shownLength)
  | tooManyDigits count =>
    Numeral.limitText ++ ": value has " ++ toString count ++ " digits; " ++ Numeral.limitAdvice
  | notANumber => "cannot convert float NaN to integer"
  | infinite => "cannot convert float infinity to integer"
  | unsuited kind =>
    "int() argument must be a string, a bytes-like object or a real number, not '" ++
      kind.name ++ "'"
  | time fault => fault.message
  | unprintable => Numeral.limitText ++ "; " ++ Numeral.limitAdvice
  | textless => "__str__ returned non-string (type " ++ NonNumeral.null.name ++ ")"

end ConversionError

/-- An integer as it is printed, in all places where one is. -/
def printedInteger (n : Int) : Except ConversionError String :=
  match Numeral.printed? n with
  | some shown => .ok shown
  | none => .error .unprintable

theorem printedInteger_of_printable {n : Int} (printable : Numeral.Printable n) :
    printedInteger n = .ok (toString n) := by
  rw [printedInteger, Numeral.printed?_of_printable printable]

theorem printedInteger_of_not_printable {n : Int} (long : ¬ Numeral.Printable n) :
    printedInteger n = .error .unprintable := by
  rw [printedInteger, Numeral.printed?_of_not_printable long]

end CatalogConsole
