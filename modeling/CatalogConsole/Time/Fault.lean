import CatalogConsole.Failure.Kind
import CatalogConsole.Numeral.Integer
import CatalogConsole.Text.Quoted

/-! # Faults of times

A time that comes from outside may not exist: its description may lack a part, a number of it may
not fit, or the calendar may have no such date.  `TimeFault` says why, `TimeFault.kind` which kind of
fault that is, and `TimeFault.message` puts it into words.  All the numbers concerned are held in words
of 32 or 64 bits on the way, which is where some of the limits come from.
-/
namespace CatalogConsole

/-- Whether a word of this many bits, one of them for the sign, holds a number. -/
def Fits (bits : Nat) (n : Int) : Prop :=
  -((1 <<< (bits - 1) : Nat) : Int) ≤ n ∧ n < ((1 <<< (bits - 1) : Nat) : Int)

instance (bits : Nat) (n : Int) : Decidable (Fits bits n) :=
  inferInstanceAs (Decidable (_ ∧ _))

/-- The parts of a date and time that have limits of their own. -/
inductive TimePart
  | year
  | month
  | day
  | hour
  | minute
  | second
  | microsecond
  deriving DecidableEq, Repr

/-- Why there is no such time. -/
inductive TimeFault
  /-- The description has no part of this name. -/
  | missing (name : String)
  /-- A part of a date and time does not fit into 32 bits. -/
  | oversized (n : Int)
  /-- A part of a date and time lies outside its limits. -/
  | outside (part : TimePart) (n : Int)
  /-- The clock is a day or more away from UTC. -/
  | farOffset (minutes : Int)
  /-- A field of an instant does not fit into its word. -/
  | unstorable (n : Int)
  /-- The date leaves the years 1 to 9999. -/
  | outOfCalendar
  /-- The span of time has more days than any span may have. -/
  | tooManyDays (days : Int)
  /-- The span of time has more days than 32 bits can count. -/
  | uncountedDays
  deriving DecidableEq, Repr

namespace TimePart

/-- The limits of a part in words.  Those of a year name the year, and those of a day depend on the
month. -/
def limits (n : Int) : TimePart → String
  | year => "year " ++ toString n ++ " is out of range"
  | month => "month must be in 1..12"
  | day => "day is out of range for month"
  | hour => "hour must be in 0..23"
  | minute => "minute must be in 0..59"
  | second => "second must be in 0..59"
  | microsecond => "microsecond must be in 0..999999"

end TimePart

namespace TimeFault

/-- The largest number of days of a span of time. -/
def longestSpan : Nat := 999999999

/-- What is wrong with a span of so many days, if anything is. -/
def ofDays? (days : Int) : Option TimeFault :=
  if ¬ Fits 32 days then some uncountedDays
  else if longestSpan < days.natAbs then some (tooManyDays days)
  else none

/-- A span of time in whole days, rounded down, and the seconds that remain, if any. -/
def spanText (minutes : Int) : String :=
  let seconds := 60 * (minutes % 1440)
  "datetime.timedelta(days=" ++ toString (minutes / 1440) ++
    (if seconds = 0 then ")" else ", seconds=" ++ toString seconds ++ ")")

/-- The kind of fault that it is. -/
def kind : TimeFault → FaultKind
  | missing _ => .key
  | outside .. | farOffset _ | unstorable _ => .value
  | oversized _ | outOfCalendar | tooManyDays _ | uncountedDays => .overflow

/-- The fault in words.  A number that does not fit into its word may be one that cannot be written
either, and then that is what is said. -/
def message : TimeFault → String
  | missing name => Text.quoted name
  | oversized n =>
    if ¬ Fits 64 n then "Python int too large to convert to C long"
    else if 0 < n then "signed integer is greater than maximum"
    else "signed integer is less than minimum"
  | outside part n => part.limits n
  | farOffset minutes =>
    "offset must be a timedelta strictly between -timedelta(hours=24) and timedelta(hours=24), not "
      ++ spanText minutes ++ "."
  | unstorable n =>
    match Numeral.printed? n with
    | some shown => "Value out of range: " ++ shown
    | none => Numeral.limitText ++ "; " ++ Numeral.limitAdvice
  | outOfCalendar => "date value out of range"
  | tooManyDays days =>
    "days=" ++ toString days ++ "; must have magnitude <= " ++ toString longestSpan
  | uncountedDays => "Python int too large to convert to C int"

end TimeFault

end CatalogConsole
