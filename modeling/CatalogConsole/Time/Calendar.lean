import CatalogConsole.Time.Fault

/-! # Calendar

Dates of the Gregorian calendar, extended back to the year 1, and the count of seconds since the
start of 1970 in UTC that leap seconds do not enter.  Days are counted by their ordinal, which is 1
for the first of January of the year 1.

A date and time of day can be put on a clock that shows UTC: `DateTime.toUTC?` carries minutes into
hours and hours into days, and moves the date day by day.

`DateTime.ofNumbers` takes a date and time from numbers that may be anything, and says which of them
is at fault if there is no such date and time.
-/
namespace CatalogConsole

/-- Whether a year has a 29th of February. -/
def isLeap (year : Nat) : Bool :=
  year % 4 = 0 && (year % 100 ≠ 0 || year % 400 = 0)

/-- The number of days of a month. -/
def daysInMonth (year month : Nat) : Nat :=
  if month = 2 then (if isLeap year then 29 else 28)
  else if month = 4 ∨ month = 6 ∨ month = 9 ∨ month = 11 then 30
  else 31

/-- The number of days from the first of January of the year 1 to that of the given year. -/
def daysBeforeYear (year : Nat) : Nat :=
  365 * (year - 1) + (year - 1) / 4 - (year - 1) / 100 + (year - 1) / 400

/-- The number of days from the first of January to the first of the given month. -/
def daysBeforeMonth (year : Nat) : Nat → Nat
  | 0 | 1 => 0
  | month + 2 => daysBeforeMonth year (month + 1) + daysInMonth year (month + 1)

/-- A date of the years 1 to 9999. -/
structure Date where
  year : Nat
  month : Nat
  day : Nat
  year_mem : 1 ≤ year ∧ year ≤ 9999
  month_mem : 1 ≤ month ∧ month ≤ 12
  day_mem : 1 ≤ day ∧ day ≤ daysInMonth year month
  deriving DecidableEq, Repr

namespace Date

/-- The date with these numbers, if there is one. -/
def ofNumbers? (year month day : Nat) : Option Date :=
  if h : (1 ≤ year ∧ year ≤ 9999) ∧ (1 ≤ month ∧ month ≤ 12) ∧
      (1 ≤ day ∧ day ≤ daysInMonth year month) then
    some ⟨year, month, day, h.1, h.2.1, h.2.2⟩
  else none

/-- Which number is at fault if there is no date with these. -/
def faultOf (year month day : Int) : TimeFault :=
  if ¬ (1 ≤ year ∧ year ≤ 9999) then .outside .year year
  else if ¬ (1 ≤ month ∧ month ≤ 12) then .outside .month month
  else .outside .day day

/-- The date with these numbers, or the fault. -/
def ofNumbers (year month day : Int) : Except TimeFault Date :=
  match ofNumbers? year.toNat month.toNat day.toNat with
  | some date => .ok date
  | none => .error (faultOf year month day)

/-- The day after a date: the next of its month, the first of the next month, or the first of the
next year, whichever there is. -/
def next? (d : Date) : Option Date :=
  (ofNumbers? d.year d.month (d.day + 1)).or
    ((ofNumbers? d.year (d.month + 1) 1).or (ofNumbers? (d.year + 1) 1 1))

/-- The day before a date: the previous of its month, the last of the previous month, or the last of
the previous year, whichever there is. -/
def previous? (d : Date) : Option Date :=
  (ofNumbers? d.year d.month (d.day - 1)).or
    ((ofNumbers? d.year (d.month - 1) (daysInMonth d.year (d.month - 1))).or
      (ofNumbers? (d.year - 1) 12 31))

/-- The date that is reached in so many steps. -/
def stepped? (step : Date → Option Date) : Nat → Date → Option Date
  | 0, d => some d
  | n + 1, d => (step d).bind (stepped? step n)

/-- The date that is so many days later, or earlier if the number is negative. -/
def moved? (d : Date) : Int → Option Date
  | .ofNat n => stepped? next? n d
  | .negSucc n => stepped? previous? (n + 1) d

/-- The ordinal of a date. -/
def ordinal (d : Date) : Nat :=
  daysBeforeYear d.year + daysBeforeMonth d.year d.month + d.day

/-- The first of January 1970. -/
def epoch : Date := ⟨1970, 1, 1, by decide, by decide, by decide⟩

/-- The first date of all. -/
def first : Date := ⟨1, 1, 1, by decide, by decide, by decide⟩

/-- The last date of all. -/
def last : Date := ⟨9999, 12, 31, by decide, by decide, by decide⟩

/-- The number of days from the first of January 1970 to a date. -/
def daysSinceEpoch (d : Date) : Int :=
  (d.ordinal : Int) - epoch.ordinal

end Date

/-- A time of day in whole seconds. -/
structure ClockTime where
  hour : Fin 24
  minute : Fin 60
  second : Fin 60
  deriving DecidableEq, Repr

/-- A part of a time of day, which counts from zero and stays below a bound. -/
def TimePart.below (part : TimePart) (bound : Nat) (n : Int) : Except TimeFault (Fin bound) :=
  if h : 0 ≤ n ∧ n.toNat < bound then .ok ⟨n.toNat, h.2⟩ else .error (.outside part n)

/-- The time of day with these numbers, or the fault. -/
def ClockTime.ofNumbers (hour minute second : Int) : Except TimeFault ClockTime := do
  let h ← TimePart.hour.below 24 hour
  let m ← TimePart.minute.below 60 minute
  let s ← TimePart.second.below 60 second
  return ⟨h, m, s⟩

theorem TimePart.rest_lt {bound : Nat} (positive : 0 < bound) (n : Int) : (n % bound).toNat < bound := by
  have low := Int.emod_nonneg n (Int.natCast_ne_zero.mpr (Nat.ne_of_gt positive))
  have high := Int.emod_lt_of_pos n (Int.natCast_pos.mpr positive)
  omega

/-- What a part of a time of day has beyond its bound, in whole bounds, is carried into the next part,
and the rest is left.  Less than nothing is made up by carrying back. -/
def TimePart.carried (bound : Nat) (positive : 0 < bound) (n : Int) : Int × Fin bound :=
  (n / bound, ⟨(n % bound).toNat, rest_lt positive n⟩)

/-- The number of seconds since midnight. -/
def ClockTime.seconds (t : ClockTime) : Nat :=
  3600 * t.hour + 60 * t.minute + t.second

/-- A date and time of day, with the number of minutes by which the clock is ahead of UTC.  A
clock of which that is not known shows UTC. -/
structure DateTime where
  date : Date
  clock : ClockTime
  offset : Option Int
  deriving DecidableEq, Repr

/-- The numbers of a date and time as they are given. -/
structure TimeNumbers where
  year : Int
  month : Int
  day : Int
  hour : Int := 0
  minute : Int := 0
  second : Int := 0
  offset : Option Int := none
  deriving DecidableEq, Repr

namespace TimeNumbers

/-- What is wrong with the offset, if there is one and anything is. -/
def offsetFault? (t : TimeNumbers) : Option TimeFault :=
  t.offset.bind fun minutes =>
    (TimeFault.ofDays? (minutes / 1440)).or
      (if minutes.natAbs < 1440 then none else some (.farOffset minutes))

/-- What is wrong with the sizes of the numbers, if anything is.  The microseconds that go with them
are among them. -/
def sizeFault? (t : TimeNumbers) (microsecond : Int) : Option TimeFault :=
  ([t.year, t.month, t.day, t.hour, t.minute, t.second, microsecond].find? (¬ Fits 32 ·)).map
    .oversized

end TimeNumbers

namespace DateTime

/-- The date and time with these numbers, or the first fault: that of the offset, that of the sizes,
and then that of one of the parts. -/
def ofNumbers (t : TimeNumbers) (microsecond : Int) : Except TimeFault DateTime :=
  match t.offsetFault?.or (t.sizeFault? microsecond) with
  | some fault => .error fault
  | none => do
    let date ← Date.ofNumbers t.year t.month t.day
    let clock ← ClockTime.ofNumbers t.hour t.minute t.second
    return ⟨date, clock, t.offset⟩

/-- The same instant on a clock that shows UTC, if its date is one of the calendar. -/
def toUTC? (t : DateTime) : Option DateTime :=
  let (hours, minute) := TimePart.carried 60 (by decide) (t.clock.minute - t.offset.getD 0)
  let (days, hour) := TimePart.carried 24 (by decide) (t.clock.hour + hours)
  (t.date.moved? days).map fun date => ⟨date, ⟨hour, minute, t.clock.second⟩, none⟩

/-- The number of seconds from the start of 1970 to what the clock shows, by the same clock. -/
def shownSeconds (t : DateTime) : Int :=
  let hours := t.date.daysSinceEpoch * 24 + t.clock.hour
  let minutes := hours * 60 + t.clock.minute
  minutes * 60 + t.clock.second

/-- The number of seconds from the start of 1970 in UTC. -/
def epochSeconds (t : DateTime) : Int :=
  86400 * t.date.daysSinceEpoch + t.clock.seconds - 60 * t.offset.getD 0

/-- The first second of the year 1 in UTC. -/
def firstSecond : Int := 86400 * Date.first.daysSinceEpoch

/-- The last second of the year 9999 in UTC. -/
def lastSecond : Int := 86400 * Date.last.daysSinceEpoch + 86399

/-- A number of seconds from the start of 1970 that leads to a date of the calendar. -/
def InCalendar (seconds : Int) : Prop :=
  firstSecond ≤ seconds ∧ seconds ≤ lastSecond

instance (seconds : Int) : Decidable (InCalendar seconds) :=
  inferInstanceAs (Decidable (_ ∧ _))

end DateTime

end CatalogConsole
