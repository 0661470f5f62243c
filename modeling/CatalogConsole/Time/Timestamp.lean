import CatalogConsole.Numeral.Nearest
import CatalogConsole.Time.Calendar
import CatalogConsole.Value

/-! # Timestamps

The service says when a product set was last indexed.  The client library represents that instant
in several ways, and `IndexTime.read` turns each of them into whole seconds and nanoseconds.

A plain date and time is put on a clock that shows UTC, and what that clock shows is counted in
seconds, which rounds down.  The two representations with nanoseconds go through a real number of
seconds instead: they divide whole microseconds by a million in the binary format and drop the
fraction.  So before 1970 they round up, and thousands of years away, where the numbers of the format
lie more than a microsecond apart, an instant just short of a second can count as that second.  An
instant that has no date is refused, and how many days away it is comes from microseconds in the
binary format too, so that the start of a far day can count as the end of the day before.
-/
namespace CatalogConsole

open Numeral

/-- An instant as whole seconds since the start of 1970 and nanoseconds. -/
structure Timestamp where
  seconds : Int
  nanos : Int
  deriving DecidableEq, Repr

/-- An index time as the client library represents it. -/
inductive IndexTime
  /-- There is no index time. -/
  | unset
  /-- Two fields that may hold anything. -/
  | fields (seconds nanos : Value)
  /-- A date and time with microseconds. -/
  | plain (time : DateTime) (microsecond : Fin 1000000)
  /-- A date and time with nanoseconds. -/
  | precise (time : DateTime) (nanos : Int)
  /-- An instant in seconds since the start of 1970, rounded down, and nanoseconds. -/
  | instant (seconds nanos : Int)
  /-- A time that does not exist. -/
  | impossible (fault : TimeFault)

namespace Timestamp

/-- A timestamp both parts of which can be printed. -/
def Printable (t : Timestamp) : Prop :=
  Numeral.Printable t.seconds ∧ Numeral.Printable t.nanos

instance : DecidablePred Printable := fun t =>
  inferInstanceAs (Decidable (Numeral.Printable t.seconds ∧ Numeral.Printable t.nanos))

/-- The number of nanoseconds in a second. -/
def nanosPerSecond : Int := 1000000000

/-- The whole microseconds that nanoseconds make up, of which negative ones make up none. -/
def microseconds (nanos : Int) : Nat := nanos.toNat / 1000

/-- The timestamp of the instant that comes some nanoseconds after a whole second: its seconds are
the whole part of a real number of seconds, and the nanoseconds are taken as they are.  They have to
stay below a second and fit into 32 bits. -/
def ofInstant (seconds nanos : Int) : Except TimeFault Timestamp :=
  if nanosPerSecond ≤ nanos then .error (.outside .microsecond (microseconds nanos))
  else if ¬ Fits 32 nanos then .error (.unstorable nanos)
  else .ok ⟨Binary64.wholeQuotient (1000000 * seconds + microseconds nanos) 1000000, nanos⟩

/-- The number of whole days, rounded down, in the microseconds of the binary format that come
nearest to a number of seconds. -/
def dayCount (seconds : Int) : Int :=
  Binary64.wholeQuotient (1000000 * seconds) 1 / 86400000000

/-- Why no date is reached this many seconds after the start of 1970, if none is.  There has to be a
span of as many days before the calendar is asked. -/
def dateFault? (seconds : Int) : Option TimeFault :=
  (TimeFault.ofDays? (dayCount seconds)).or
    (if DateTime.InCalendar seconds then none else some .outOfCalendar)

/-- Why the two fields of an instant cannot be held, if they cannot.  Seconds have 64 bits and
nanoseconds 32. -/
def fieldFault? (seconds nanos : Int) : Option TimeFault :=
  if ¬ Fits 64 seconds then some (.unstorable seconds)
  else if ¬ Fits 32 nanos then some (.unstorable nanos)
  else none

end Timestamp

namespace IndexTime

/-- A date and time with microseconds, from numbers. -/
def ofMicroseconds (t : TimeNumbers) (microsecond : Int) : IndexTime :=
  match DateTime.ofNumbers t microsecond, TimePart.microsecond.below 1000000 microsecond with
  | .error fault, _ => impossible fault
  | .ok _, .error fault => impossible fault
  | .ok time, .ok fraction => plain time fraction

/-- A date and time with nanoseconds, from numbers. -/
def ofNanoseconds (t : TimeNumbers) (nanos : Int) : IndexTime :=
  match DateTime.ofNumbers t (Timestamp.microseconds nanos) with
  | .error fault => impossible fault
  | .ok time => precise time nanos

/-- The timestamp of an index time; an unset one reads as zero. -/
def read : IndexTime → Except ConversionError Timestamp
  | unset => .ok ⟨0, 0⟩
  | fields seconds nanos => do
    let s ← seconds.toInteger
    let n ← nanos.toInteger
    return ⟨s, n⟩
  | plain time microsecond =>
    match time.toUTC? with
    | some utc => .ok ⟨utc.shownSeconds, 1000 * (microsecond : Nat)⟩
    | none => .error (.time .outOfCalendar)
  | precise time nanos => (Timestamp.ofInstant time.epochSeconds nanos).mapError .time
  | instant seconds nanos =>
    match (Timestamp.fieldFault? seconds nanos).or (Timestamp.dateFault? seconds) with
    | some fault => .error (.time fault)
    | none => (Timestamp.ofInstant seconds nanos).mapError .time
  | impossible fault => .error (.time fault)

end IndexTime

end CatalogConsole
