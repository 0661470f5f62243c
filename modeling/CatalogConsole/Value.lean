import CatalogConsole.Conversion
import CatalogConsole.Numeral.Shortest

/-! # Values from outside

Some fields of what the client library hands over may hold anything: a status code or the parts of
a timestamp can be a number, a text that stands for one, or something else.  `Value` is such a
value, `toInteger` the one conversion that is ever asked of it, and `text` how it is printed.
-/
namespace CatalogConsole

open Numeral

/-- A value of any kind. -/
inductive Value
  | null
  | bool (b : Bool)
  | int (n : Int)
  | real (x : Binary64)
  | text (s : String)
  | list (items : List Value)
  | record (fields : List (String × Value))
  deriving Inhabited

/-- The whole part of a floating-point value, if it has one. -/
def Numeral.Binary64.toInteger : Binary64 → Except ConversionError Int
  | .nan => .error .notANumber
  | .infinite _ => .error .infinite
  | .finite negative significand exponent =>
    .ok (Binary64.withSign negative (Binary64.wholePart significand exponent))

namespace Value

/-- The integer that a value stands for: an integer itself, 1 for true and 0 for false, the whole
part of a real number, and the number that the numeral in a text denotes.  A numeral with too many
digits is refused, even if more follows it in the text. -/
def toInteger : Value → Except ConversionError Int
  | null => .error (.unsuited .null)
  | bool b => .ok (if b then 1 else 0)
  | int n => .ok n
  | real x => x.toInteger
  | text s =>
    match excess? s, integer? s with
    | some count, _ => .error (.tooManyDigits count)
    | none, some n => .ok n
    | none, none => .error (.malformed s)
  | list _ => .error (.unsuited .list)
  | record _ => .error (.unsuited .record)

/-- Real numbers have no power of ten between 0.0001 and 10000000000000000, and two digits in a
power at least. -/
def realStyle : RealStyle := ⟨-4, 15, 2⟩

mutual

/-- A value as it is printed inside another one, where texts are quoted.  It has no text if an integer
in it has none. -/
def shown : Value → Except ConversionError String
  | null => .ok "None"
  | bool true => .ok "True"
  | bool false => .ok "False"
  | int n => printedInteger n
  | real x => .ok (realStyle.shown x)
  | text s => .ok (Text.quoted s)
  | list items => do
    let items ← shownItems items
    return "[" ++ String.intercalate ", " items ++ "]"
  | record fields => do
    let fields ← shownFields fields
    return "\x7b" ++ String.intercalate ", " fields ++ "\x7d"

/-- The items of a list, each as it is printed inside it. -/
def shownItems : List Value → Except ConversionError (List String)
  | [] => .ok []
  | v :: rest => do
    let item ← v.shown
    let items ← shownItems rest
    return item :: items

/-- The fields of a record, each as it is printed inside it. -/
def shownFields : List (String × Value) → Except ConversionError (List String)
  | [] => .ok []
  | (name, v) :: rest => do
    let value ← v.shown
    let fields ← shownFields rest
    return (Text.quoted name ++ ": " ++ value) :: fields

end

/-- A value as it is printed on its own: a text stands for itself. -/
def printed : Value → Except ConversionError String
  | text s => .ok s
  | v => v.shown

@[simp] theorem toInteger_int (n : Int) : (int n).toInteger = .ok n := rfl

@[simp] theorem toInteger_null : null.toInteger = .error (.unsuited .null) := rfl

@[simp] theorem printed_null : null.printed = .ok "None" := by
  simp [printed, shown]

@[simp] theorem printed_text (s : String) : (text s).printed = .ok s := rfl

@[simp] theorem printed_int (n : Int) : (int n).printed = printedInteger n := by
  simp [printed, shown]

end Value

end CatalogConsole
