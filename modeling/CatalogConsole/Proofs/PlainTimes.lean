import CatalogConsole.Time.Timestamp

/-! # Plain dates and times

A plain date and time is read in two steps.  It is put on a clock that shows UTC, which carries
minutes into hours and hours into days and moves the date day by day, through the ends of months and
years.  Then the days, hours, minutes and seconds of that clock are counted up.  The result is what
plain arithmetic on the numbers gives (`IndexTime.read_plain`), and the calendar is left just when that
lies outside its seconds.

What carries this is that ordinals count days: the day after a date has the next ordinal, whether it
comes in the same month, in the next month or in the next year (`Date.Precedes.ordinal_eq`).
-/
namespace CatalogConsole

/-! ## Years and months -/

/-- The number of days of a year. -/
def daysInYear (year : Nat) : Nat := if isLeap year then 366 else 365

/-- Every fourth year has one day more, but for every hundredth, but for every four hundredth. -/
theorem daysInYear_eq (year : Nat) :
    daysInYear year + (if 100 ∣ year then 1 else 0) =
      365 + (if 4 ∣ year then 1 else 0) + (if 400 ∣ year then 1 else 0) := by
  have leap : isLeap year = true ↔ 4 ∣ year ∧ (¬ 100 ∣ year ∨ 400 ∣ year) := by
    simp [isLeap, Nat.dvd_iff_mod_eq_zero]
  by_cases fourHundred : 400 ∣ year
  · have hundred : 100 ∣ year := Nat.dvd_trans (by decide) fourHundred
    have four : 4 ∣ year := Nat.dvd_trans (by decide) hundred
    simp [daysInYear, leap, four, hundred, fourHundred]
  · by_cases hundred : 100 ∣ year
    · have four : 4 ∣ year := Nat.dvd_trans (by decide) hundred
      simp [daysInYear, leap, four, hundred, fourHundred]
    · by_cases four : 4 ∣ year <;> simp [daysInYear, leap, four, hundred, fourHundred]

/-- A year begins when the one before is over. -/
theorem daysBeforeYear_succ {year : Nat} (h : 1 ≤ year) :
    daysBeforeYear (year + 1) = daysBeforeYear year + daysInYear year := by
  obtain ⟨n, rfl⟩ := Nat.exists_eq_add_of_le' h
  have days := daysInYear_eq (n + 1)
  have fours : (n + 1) / 4 = n / 4 + if 4 ∣ n + 1 then 1 else 0 := Nat.succ_div
  have hundreds : (n + 1) / 100 = n / 100 + if 100 ∣ n + 1 then 1 else 0 := Nat.succ_div
  have fourHundreds : (n + 1) / 400 = n / 400 + if 400 ∣ n + 1 then 1 else 0 := Nat.succ_div
  have fewer : n / 100 ≤ n / 4 := Nat.div_le_div_left (by decide) (by decide)
  have fewer' : (n + 1) / 100 ≤ (n + 1) / 4 := Nat.div_le_div_left (by decide) (by decide)
  simp only [daysBeforeYear, Nat.add_sub_cancel]
  omega

/-- A month begins when the one before is over. -/
theorem daysBeforeMonth_succ (year : Nat) {month : Nat} (h : 1 ≤ month) :
    daysBeforeMonth year (month + 1) = daysBeforeMonth year month + daysInMonth year month := by
  obtain ⟨m, rfl⟩ := Nat.exists_eq_add_of_le' h
  rfl

/-- A year is over with its twelfth month. -/
theorem daysBeforeMonth_twelve (year : Nat) :
    daysBeforeMonth year 12 + daysInMonth year 12 = daysInYear year := by
  cases h : isLeap year <;> simp [daysBeforeMonth, daysInMonth, daysInYear, h]

theorem one_le_daysInMonth (year month : Nat) : 1 ≤ daysInMonth year month := by
  unfold daysInMonth
  split
  · split <;> decide
  · split <;> decide

/-- Where each is followed by one that is no less, so is it by all later ones. -/
theorem le_of_le_succ {f : Nat → Nat} {start : Nat} (grows : ∀ n, start ≤ n → f n ≤ f (n + 1))
    {m n : Nat} (h : start ≤ m) (le : m ≤ n) : f m ≤ f n := by
  induction le with
  | refl => exact Nat.le_refl _
  | step le ih => exact Nat.le_trans ih (grows _ (Nat.le_trans h le))

/-! ## Dates in their order -/

namespace Date

theorem one_le_ordinal (d : Date) : 1 ≤ d.ordinal :=
  Nat.le_trans d.day_mem.1 (Nat.le_add_left ..)

/-- No date comes after the last one. -/
theorem ordinal_le_last (d : Date) : d.ordinal ≤ last.ordinal := by
  obtain ⟨firstMonth, lastMonth⟩ := d.month_mem
  obtain ⟨firstYear, lastYear⟩ := d.year_mem
  have months : daysBeforeMonth d.year (d.month + 1) ≤ daysBeforeMonth d.year 13 :=
    le_of_le_succ (fun _ hm => Nat.le.intro (daysBeforeMonth_succ d.year hm).symm)
      (Nat.le_add_left 1 _) (Nat.succ_le_succ lastMonth)
  have years : daysBeforeYear (d.year + 1) ≤ daysBeforeYear 10000 :=
    le_of_le_succ (fun _ hy => Nat.le.intro (daysBeforeYear_succ hy).symm)
      (Nat.le_add_left 1 _) (Nat.succ_le_succ lastYear)
  have inYear : daysBeforeMonth d.year d.month + d.day ≤ daysInYear d.year := by
    calc daysBeforeMonth d.year d.month + d.day
        ≤ daysBeforeMonth d.year d.month + daysInMonth d.year d.month :=
          Nat.add_le_add_left d.day_mem.2 _
      _ = daysBeforeMonth d.year (d.month + 1) := (daysBeforeMonth_succ _ firstMonth).symm
      _ ≤ daysBeforeMonth d.year 13 := months
      _ = daysInYear d.year := daysBeforeMonth_twelve _
  calc d.ordinal = daysBeforeYear d.year + (daysBeforeMonth d.year d.month + d.day) :=
        Nat.add_assoc ..
    _ ≤ daysBeforeYear d.year + daysInYear d.year := Nat.add_le_add_left inYear _
    _ = daysBeforeYear (d.year + 1) := (daysBeforeYear_succ firstYear).symm
    _ ≤ daysBeforeYear 10000 := years
    _ = last.ordinal := by decide

/-- **One date comes right before another**: both lie in one month, or the first ends its month and
the second begins the next, which may be that of the next year. -/
def Precedes (d d' : Date) : Prop :=
  (d'.year = d.year ∧ d'.month = d.month ∧ d'.day = d.day + 1) ∨
  (d.day = daysInMonth d.year d.month ∧ d'.day = 1 ∧
    ((d'.year = d.year ∧ d'.month = d.month + 1) ∨
      (d.month = 12 ∧ d'.month = 1 ∧ d'.year = d.year + 1)))

/-- **Ordinals count days.** -/
theorem Precedes.ordinal_eq {d d' : Date} (h : d.Precedes d') : d'.ordinal = d.ordinal + 1 := by
  rcases h with ⟨year, month, day⟩ | ⟨monthEnds, day, ⟨year, month⟩ | ⟨december, month, year⟩⟩
  · simp only [ordinal, year, month, day]
    omega
  · simp only [ordinal, year, month, day, monthEnds, daysBeforeMonth_succ d.year d.month_mem.1]
    omega
  · have yearEnds := daysBeforeMonth_twelve d.year
    have january : daysBeforeMonth (d.year + 1) 1 = 0 := rfl
    rw [december] at monthEnds
    simp only [ordinal, year, month, day, december, monthEnds, january,
      daysBeforeYear_succ d.year_mem.1]
    omega

theorem ofNumbers?_eq_some {year month day : Nat} {d : Date}
    (h : ofNumbers? year month day = some d) : d.year = year ∧ d.month = month ∧ d.day = day := by
  unfold ofNumbers? at h
  split at h
  · cases h
    exact ⟨rfl, rfl, rfl⟩
  · cases h

theorem ofNumbers?_eq_none {year month day : Nat} (h : ofNumbers? year month day = none) :
    ¬ ((1 ≤ year ∧ year ≤ 9999) ∧ (1 ≤ month ∧ month ≤ 12) ∧
      (1 ≤ day ∧ day ≤ daysInMonth year month)) := by
  unfold ofNumbers? at h
  split at h
  · cases h
  · assumption

section Steps
variable {d d' : Date}

/-- The day after a date comes right after it. -/
theorem precedes_of_next (h : d.next? = some d') : d.Precedes d' := by
  have inYear := d.year_mem
  have inMonth := d.month_mem
  have onDay := d.day_mem
  simp only [next?, Option.or_eq_some_iff] at h
  rcases h with sameMonth | ⟨monthOver, sameYear | ⟨yearOver, nextYear⟩⟩
  · exact .inl (ofNumbers?_eq_some sameMonth)
  · obtain ⟨year, month, day⟩ := ofNumbers?_eq_some sameYear
    have noDay := ofNumbers?_eq_none monthOver
    exact .inr ⟨by omega, day, .inl ⟨year, month⟩⟩
  · obtain ⟨year, month, day⟩ := ofNumbers?_eq_some nextYear
    have noDay := ofNumbers?_eq_none monthOver
    have noMonth := ofNumbers?_eq_none yearOver
    have nonempty := one_le_daysInMonth d.year (d.month + 1)
    exact .inr ⟨by omega, day, .inr ⟨by omega, month, year⟩⟩

/-- Only the last date has none after it. -/
theorem ordinal_of_next_eq_none (h : d.next? = none) : d.ordinal = last.ordinal := by
  have inYear := d.year_mem
  have inMonth := d.month_mem
  have onDay := d.day_mem
  simp only [next?, Option.or_eq_none_iff] at h
  obtain ⟨monthOver, yearOver, calendarOver⟩ := h
  have noDay := ofNumbers?_eq_none monthOver
  have noMonth := ofNumbers?_eq_none yearOver
  have noYear := ofNumbers?_eq_none calendarOver
  have nonempty := one_le_daysInMonth d.year (d.month + 1)
  have nonempty' := one_le_daysInMonth (d.year + 1) 1
  have year : d.year = 9999 := by omega
  have month : d.month = 12 := by omega
  rw [year, month] at onDay noDay
  have days : daysInMonth 9999 12 = 31 := rfl
  have day : d.day = 31 := by omega
  simp only [ordinal, last, year, month, day]

/-- The day before a date comes right before it. -/
theorem precedes_of_previous (h : d.previous? = some d') : d'.Precedes d := by
  have inYear := d.year_mem
  have inMonth := d.month_mem
  have onDay := d.day_mem
  have inYear' := d'.year_mem
  have inMonth' := d'.month_mem
  have onDay' := d'.day_mem
  simp only [previous?, Option.or_eq_some_iff] at h
  rcases h with sameMonth | ⟨monthOver, sameYear | ⟨yearOver, lastYear⟩⟩
  · obtain ⟨year, month, day⟩ := ofNumbers?_eq_some sameMonth
    exact .inl ⟨year.symm, month.symm, by omega⟩
  · obtain ⟨year, month, day⟩ := ofNumbers?_eq_some sameYear
    have noDay := ofNumbers?_eq_none monthOver
    rw [← year, ← month] at day
    exact .inr ⟨day, by omega, .inl ⟨year.symm, by omega⟩⟩
  · obtain ⟨year, month, day⟩ := ofNumbers?_eq_some lastYear
    have noDay := ofNumbers?_eq_none monthOver
    have noMonth := ofNumbers?_eq_none yearOver
    have nonempty := one_le_daysInMonth d.year (d.month - 1)
    have days : daysInMonth d'.year 12 = 31 := rfl
    exact .inr ⟨by rw [month, days, day], by omega, .inr ⟨month, by omega, by omega⟩⟩

/-- Only the first date has none before it. -/
theorem ordinal_of_previous_eq_none (h : d.previous? = none) : d.ordinal = 1 := by
  have inYear := d.year_mem
  have inMonth := d.month_mem
  have onDay := d.day_mem
  simp only [previous?, Option.or_eq_none_iff] at h
  obtain ⟨monthOver, yearOver, calendarOver⟩ := h
  have noDay := ofNumbers?_eq_none monthOver
  have noMonth := ofNumbers?_eq_none yearOver
  have noYear := ofNumbers?_eq_none calendarOver
  have nonempty := one_le_daysInMonth d.year (d.month - 1)
  have days : daysInMonth (d.year - 1) 12 = 31 := rfl
  have year : d.year = 1 := by omega
  have month : d.month = 1 := by omega
  have day : d.day = 1 := by omega
  simp only [ordinal, year, month, day]
  rfl

end Steps

/-! ## Dates that are moved -/

section Moves
variable {step : Date → Option Date} {left : Date → Nat} {d d' : Date}

/-- A step that leaves one step less takes so many off after so many steps. -/
theorem left_of_stepped_eq_some (down : ∀ {d d'}, step d = some d' → left d = left d' + 1) {n : Nat}
    (h : stepped? step n d = some d') : left d = left d' + n := by
  induction n generalizing d with
  | zero => cases h; rfl
  | succ n ih =>
    obtain ⟨middle, first, rest⟩ := Option.bind_eq_some_iff.mp h
    rw [down first, ih rest]
    omega

/-- If there is none where no step is left, more steps were asked for than were left. -/
theorem left_of_stepped_eq_none (down : ∀ {d d'}, step d = some d' → left d = left d' + 1)
    (stops : ∀ {d}, step d = none → left d = 0) {n : Nat} (h : stepped? step n d = none) :
    left d < n := by
  induction n generalizing d with
  | zero => cases h
  | succ n ih =>
    cases first : step d with
    | none => rw [stops first]; exact Nat.succ_pos n
    | some middle =>
      rw [stepped?, first, Option.bind_some] at h
      rw [down first]
      exact Nat.succ_lt_succ (ih h)

/-- Towards the last date one day less is left after each. -/
theorem later_of_next (h : d.next? = some d') :
    last.ordinal - d.ordinal = last.ordinal - d'.ordinal + 1 := by
  have counted := (precedes_of_next h).ordinal_eq
  have fits := d'.ordinal_le_last
  omega

/-- Towards the first date too. -/
theorem earlier_of_previous (h : d.previous? = some d') : d.ordinal - 1 = d'.ordinal - 1 + 1 := by
  have counted := (precedes_of_previous h).ordinal_eq
  have fits := d'.one_le_ordinal
  omega

/-- **A date that is moved** has the ordinal that is so much larger. -/
theorem ordinal_of_moved {n : Int} (h : d.moved? n = some d') :
    (d'.ordinal : Int) = d.ordinal + n := by
  have fits := d.ordinal_le_last
  have fits' := d'.ordinal_le_last
  have positive := d.one_le_ordinal
  have positive' := d'.one_le_ordinal
  match n with
  | .ofNat n =>
    have left := left_of_stepped_eq_some later_of_next h
    rw [Int.ofNat_eq_natCast]
    omega
  | .negSucc n =>
    have left := left_of_stepped_eq_some earlier_of_previous h
    rw [Int.negSucc_eq]
    omega

/-- It cannot be moved only where no date has that ordinal. -/
theorem outside_of_moved_eq_none {n : Int} (h : d.moved? n = none) :
    (d.ordinal : Int) + n < 1 ∨ (last.ordinal : Int) < d.ordinal + n := by
  have fits := d.ordinal_le_last
  have positive := d.one_le_ordinal
  match n with
  | .ofNat n =>
    have left := left_of_stepped_eq_none later_of_next
      (fun stop => by rw [ordinal_of_next_eq_none stop, Nat.sub_self]) h
    rw [Int.ofNat_eq_natCast]
    omega
  | .negSucc n =>
    have left := left_of_stepped_eq_none earlier_of_previous
      (fun stop => by rw [ordinal_of_previous_eq_none stop]) h
    rw [Int.negSucc_eq]
    omega

end Moves

end Date

/-! ## The clock -/

/-- Nothing is lost in carrying. -/
theorem TimePart.carried_eq {bound : Nat} (positive : 0 < bound) (n : Int) :
    (bound : Int) * (carried bound positive n).1 + (carried bound positive n).2 = n := by
  have low := Int.emod_nonneg n (Int.natCast_ne_zero.mpr (Nat.ne_of_gt positive))
  have rest : (((carried bound positive n).2 : Nat) : Int) = n % bound := Int.toNat_of_nonneg low
  rw [rest]
  exact Int.mul_ediv_add_emod n bound

namespace DateTime

variable {t utc : DateTime}

/-- What a clock shows lies in the calendar. -/
theorem inCalendar_shownSeconds (t : DateTime) : InCalendar t.shownSeconds := by
  have first := t.date.one_le_ordinal
  have last := t.date.ordinal_le_last
  have hour := t.clock.hour.isLt
  have minute := t.clock.minute.isLt
  have second := t.clock.second.isLt
  have one : Date.first.ordinal = 1 := rfl
  simp only [InCalendar, firstSecond, lastSecond, shownSeconds, Date.daysSinceEpoch, one]
  omega

/-- The clock that shows UTC has the date moved by whole days and the minutes that are left. -/
theorem toUTC?_eq (t : DateTime) : ∃ (days : Int) (hour : Fin 24) (minute : Fin 60),
    t.toUTC? = (t.date.moved? days).map
      (fun date => ⟨date, ⟨hour, minute, t.clock.second⟩, none⟩) ∧
    1440 * days + 60 * hour + minute =
      60 * (t.clock.hour : Int) + t.clock.minute - t.offset.getD 0 := by
  rcases minutes : TimePart.carried 60 (by decide) (t.clock.minute - t.offset.getD 0) with ⟨carry, minute⟩
  rcases hours : TimePart.carried 24 (by decide) (t.clock.hour + carry) with ⟨days, hour⟩
  refine ⟨days, hour, minute, by simp only [toUTC?, minutes, hours], ?_⟩
  have minutesKept := TimePart.carried_eq (by decide : 0 < 60) (t.clock.minute - t.offset.getD 0)
  have hoursKept := TimePart.carried_eq (by decide : 0 < 24) (t.clock.hour + carry)
  rw [minutes] at minutesKept
  rw [hours] at hoursKept
  simp only at minutesKept hoursKept
  omega

/-- **On a clock that shows UTC** there are as many seconds as by plain arithmetic. -/
theorem shownSeconds_of_toUTC (h : t.toUTC? = some utc) : utc.shownSeconds = t.epochSeconds := by
  obtain ⟨days, hour, minute, shown, kept⟩ := t.toUTC?_eq
  obtain ⟨date, moved, rfl⟩ := Option.map_eq_some_iff.mp (shown.symm.trans h)
  have counted := Date.ordinal_of_moved moved
  simp only [shownSeconds, epochSeconds, Date.daysSinceEpoch, ClockTime.seconds]
  omega

/-- There is none only where those seconds are not in the calendar. -/
theorem not_inCalendar_of_toUTC_eq_none (h : t.toUTC? = none) : ¬ InCalendar t.epochSeconds := by
  obtain ⟨days, hour, minute, shown, kept⟩ := t.toUTC?_eq
  have outside := Date.outside_of_moved_eq_none (Option.map_eq_none_iff.mp (shown.symm.trans h))
  have one : Date.first.ordinal = 1 := rfl
  simp only [InCalendar, firstSecond, lastSecond, epochSeconds, Date.daysSinceEpoch,
    ClockTime.seconds, one]
  omega

end DateTime

/-- **A plain date and time is read by plain arithmetic.** -/
theorem IndexTime.read_plain (t : DateTime) (microsecond : Fin 1000000) :
    (plain t microsecond).read =
      if DateTime.InCalendar t.epochSeconds then
        .ok ⟨t.epochSeconds, 1000 * (microsecond : Nat)⟩
      else .error (.time .outOfCalendar) := by
  cases shown : t.toUTC? with
  | some utc =>
    have seconds := DateTime.shownSeconds_of_toUTC shown
    have inside := utc.inCalendar_shownSeconds
    rw [seconds] at inside
    rw [if_pos inside, read, shown, ← seconds]
  | none =>
    rw [if_neg (DateTime.not_inCalendar_of_toUTC_eq_none shown), read, shown]

/-! ## Numbers that make a date and time -/

/-- Each number is within the limits of its part, and the clock is less than a day away from UTC. -/
structure TimeNumbers.Valid (n : TimeNumbers) (microsecond : Int) : Prop where
  year : 1 ≤ n.year ∧ n.year ≤ 9999
  month : 1 ≤ n.month ∧ n.month ≤ 12
  day : 1 ≤ n.day ∧ n.day ≤ daysInMonth n.year.toNat n.month.toNat
  hour : 0 ≤ n.hour ∧ n.hour < 24
  minute : 0 ≤ n.minute ∧ n.minute < 60
  second : 0 ≤ n.second ∧ n.second < 60
  microsecond : 0 ≤ microsecond ∧ microsecond < 1000000
  offset : ∀ minutes, n.offset = some minutes → minutes.natAbs < 1440

/-- The date and time has these numbers. -/
structure DateTime.Has (t : DateTime) (n : TimeNumbers) : Prop where
  year : (t.date.year : Int) = n.year
  month : (t.date.month : Int) = n.month
  day : (t.date.day : Int) = n.day
  hour : (t.clock.hour : Int) = n.hour
  minute : (t.clock.minute : Int) = n.minute
  second : (t.clock.second : Int) = n.second
  offset : t.offset = n.offset

theorem daysInMonth_le (year month : Nat) : daysInMonth year month ≤ 31 := by
  unfold daysInMonth
  split
  · split <;> decide
  · split <;> decide

/-- Numbers of a few digits fit into a word. -/
theorem fits_of_small {n : Int} (low : 0 ≤ n) (high : n < 1000000) : Fits 32 n := by
  have limit : ((1 <<< (32 - 1) : Nat) : Int) = 2147483648 := rfl
  rw [Fits, limit]
  omega

theorem TimePart.below_eq_ok (part : TimePart) (bound : Nat) {n : Int} (low : 0 ≤ n)
    (high : n < bound) : ∃ v : Fin bound, part.below bound n = .ok v ∧ (v : Int) = n := by
  have fits : 0 ≤ n ∧ n.toNat < bound := by omega
  exact ⟨⟨n.toNat, fits.2⟩, by rw [below, dif_pos fits], Int.toNat_of_nonneg low⟩

namespace TimeNumbers.Valid

variable {n : TimeNumbers} {microsecond : Int} (h : n.Valid microsecond)
include h

theorem offsetFault? : n.offsetFault? = none := by
  cases shown : n.offset with
  | none => rw [TimeNumbers.offsetFault?, shown]; rfl
  | some minutes =>
    have near := h.offset minutes shown
    have limit : ((1 <<< (32 - 1) : Nat) : Int) = 2147483648 := rfl
    have counted : Fits 32 (minutes / 1440) := by
      rw [Fits, limit]
      omega
    have short : ¬ TimeFault.longestSpan < (minutes / 1440).natAbs := by
      rw [TimeFault.longestSpan]
      omega
    simp [TimeNumbers.offsetFault?, shown, TimeFault.ofDays?, counted, short, near]

theorem sizeFault? : n.sizeFault? microsecond = none := by
  have := daysInMonth_le n.year.toNat n.month.toNat
  obtain ⟨year, month, day, hour, minute, second, fraction, -⟩ := h
  have small : ∀ k ∈ [n.year, n.month, n.day, n.hour, n.minute, n.second, microsecond],
      Fits 32 k := by
    intro k hk
    simp only [List.mem_cons, List.not_mem_nil, or_false] at hk
    rcases hk with rfl | rfl | rfl | rfl | rfl | rfl | rfl <;> exact fits_of_small (by omega) (by omega)
  rw [TimeNumbers.sizeFault?, Option.map_eq_none_iff, List.find?_eq_none]
  intro k hk
  simpa using small k hk

theorem date : ∃ d : Date, Date.ofNumbers n.year n.month n.day = .ok d ∧ (d.year : Int) = n.year ∧
    (d.month : Int) = n.month ∧ (d.day : Int) = n.day := by
  obtain ⟨year, month, day, -⟩ := h
  have inRange : (1 ≤ n.year.toNat ∧ n.year.toNat ≤ 9999) ∧
      (1 ≤ n.month.toNat ∧ n.month.toNat ≤ 12) ∧
      (1 ≤ n.day.toNat ∧ n.day.toNat ≤ daysInMonth n.year.toNat n.month.toNat) := by omega
  refine ⟨⟨_, _, _, inRange.1, inRange.2.1, inRange.2.2⟩, ?_, Int.toNat_of_nonneg (by omega),
    Int.toNat_of_nonneg (by omega), Int.toNat_of_nonneg (by omega)⟩
  rw [Date.ofNumbers, Date.ofNumbers?, dif_pos inRange]

theorem clock : ∃ c : ClockTime, ClockTime.ofNumbers n.hour n.minute n.second = .ok c ∧
    (c.hour : Int) = n.hour ∧ (c.minute : Int) = n.minute ∧ (c.second : Int) = n.second := by
  obtain ⟨hour, isHour, sameHour⟩ := TimePart.hour.below_eq_ok 24 h.hour.1 h.hour.2
  obtain ⟨minute, isMinute, sameMinute⟩ :=
    TimePart.minute.below_eq_ok 60 h.minute.1 h.minute.2
  obtain ⟨second, isSecond, sameSecond⟩ :=
    TimePart.second.below_eq_ok 60 h.second.1 h.second.2
  refine ⟨⟨hour, minute, second⟩, ?_, sameHour, sameMinute, sameSecond⟩
  rw [ClockTime.ofNumbers, isHour, isMinute, isSecond]
  rfl

/-- Numbers that are valid are those of a date and time. -/
theorem time : ∃ t : DateTime, DateTime.ofNumbers n microsecond = .ok t ∧ t.Has n := by
  obtain ⟨d, isDate, year, month, day⟩ := h.date
  obtain ⟨c, isClock, hour, minute, second⟩ := h.clock
  refine ⟨⟨d, c, n.offset⟩, ?_, ⟨year, month, day, hour, minute, second, rfl⟩⟩
  rw [DateTime.ofNumbers, h.offsetFault?, h.sizeFault?, Option.none_or, isDate, isClock]
  rfl

/-- **Numbers that are valid make a plain date and time.** -/
theorem plain : ∃ (t : DateTime) (u : Fin 1000000),
    IndexTime.ofMicroseconds n microsecond = .plain t u ∧ t.Has n ∧ (u : Int) = microsecond := by
  obtain ⟨t, isTime, has⟩ := h.time
  obtain ⟨u, isFraction, fraction⟩ :=
    TimePart.microsecond.below_eq_ok 1000000 h.microsecond.1 h.microsecond.2
  refine ⟨t, u, ?_, has, fraction⟩
  simp only [IndexTime.ofMicroseconds, isTime, isFraction]

end TimeNumbers.Valid

/-! ## Instants and their timestamps -/

/-- The instant of a date and time, in microseconds since the start of 1970 in UTC. -/
def DateTime.instant (t : DateTime) (microsecond : Fin 1000000) : Int :=
  1000000 * t.epochSeconds + microsecond

/-- A timestamp comes before another by its seconds, or else by its nanoseconds. -/
def Timestamp.Before (p p' : Timestamp) : Prop :=
  p.seconds < p'.seconds ∨ (p.seconds = p'.seconds ∧ p.nanos < p'.nanos)

/-- The timestamp of a plain date and time that has one. -/
theorem IndexTime.eq_of_read_plain {t : DateTime} {microsecond : Fin 1000000} {p : Timestamp}
    (h : (plain t microsecond).read = .ok p) :
    p = ⟨t.epochSeconds, 1000 * (microsecond : Nat)⟩ := by
  rw [read_plain] at h
  split at h
  · exact (Except.ok.inj h).symm
  · cases h

/-- **A plain date and time is read as the instant that it denotes.**  Valid numbers always make one.
With `S` the days since the start of 1970 and the hours, minutes and seconds counted up, less the
offset, it is refused if and only if `S` lies outside the seconds of the years 1 to 9999, and else its
timestamp is `S` with the microseconds as nanoseconds.  So the same instant has the same timestamp in
every offset, other instants have other timestamps, and timestamps are in the order of their instants,
before 1970 too. -/
theorem plain_times_read :
    (∀ (n : TimeNumbers) (microsecond : Int), n.Valid microsecond →
      ∃ (t : DateTime) (u : Fin 1000000),
        IndexTime.ofMicroseconds n microsecond = .plain t u ∧ t.Has n ∧ (u : Int) = microsecond) ∧
    (Date.first.ordinal = 1 ∧ ∀ d d' : Date, d.Precedes d' → d'.ordinal = d.ordinal + 1) ∧
    (∀ (t : DateTime) (u : Fin 1000000),
      let days : Int := (t.date.ordinal : Int) - Date.epoch.ordinal
      let S : Int := 86400 * days + 3600 * t.clock.hour + 60 * t.clock.minute + t.clock.second -
        60 * t.offset.getD 0
      ((IndexTime.plain t u).read = .error (.time .outOfCalendar) ↔
        ¬ (DateTime.firstSecond ≤ S ∧ S ≤ DateTime.lastSecond)) ∧
      (DateTime.firstSecond ≤ S ∧ S ≤ DateTime.lastSecond →
        (IndexTime.plain t u).read = .ok ⟨S, 1000 * (u : Nat)⟩)) ∧
    ((ConversionError.time .outOfCalendar).message = "date value out of range") ∧
    (∀ (t t' : DateTime) (u u' : Fin 1000000), t.instant u = t'.instant u' →
      (IndexTime.plain t u).read = (IndexTime.plain t' u').read) ∧
    (∀ (t t' : DateTime) (u u' : Fin 1000000) (p p' : Timestamp),
      (IndexTime.plain t u).read = .ok p → (IndexTime.plain t' u').read = .ok p' →
      (p = p' ↔ t.instant u = t'.instant u') ∧ (p.Before p' ↔ t.instant u < t'.instant u')) := by
  refine ⟨fun _ _ valid => valid.plain, ⟨rfl, fun _ _ h => h.ordinal_eq⟩, ?_, rfl, ?_, ?_⟩
  · intro t u days S
    have seconds : t.epochSeconds = S := by
      simp only [DateTime.epochSeconds, Date.daysSinceEpoch, ClockTime.seconds, S, days]
      omega
    rw [IndexTime.read_plain, seconds]
    by_cases inside : DateTime.InCalendar S
    · rw [if_pos inside]
      exact ⟨⟨fun h => (nomatch h), fun h => absurd inside h⟩, fun _ => rfl⟩
    · rw [if_neg inside]
      exact ⟨⟨fun _ => inside, fun _ => rfl⟩, fun h => absurd h inside⟩
  · intro t t' u u' same
    have fraction := u.isLt
    have fraction' := u'.isLt
    simp only [DateTime.instant] at same
    have seconds : t.epochSeconds = t'.epochSeconds := by omega
    have microseconds : u = u' := by omega
    rw [IndexTime.read_plain, IndexTime.read_plain, seconds, microseconds]
  · intro t t' u u' p p' read read'
    have fraction := u.isLt
    have fraction' := u'.isLt
    rw [IndexTime.eq_of_read_plain read, IndexTime.eq_of_read_plain read', Timestamp.mk.injEq]
    simp only [Timestamp.Before, DateTime.instant]
    constructor <;> omega

/-- Half an hour past midnight of the year 1970, an hour ahead of UTC, is a time of 1969 and comes
before the epoch; half an hour before the end of 9999, an hour behind, is out of the calendar. -/
theorem new_year_east_and_west :
    let east : TimeNumbers := ⟨1970, 1, 1, 0, 30, 0, some 60⟩
    let west : TimeNumbers := ⟨9999, 12, 31, 23, 30, 0, some (-60)⟩
    let before : Timestamp := ⟨-1800, 999999000⟩
    east.Valid 999999 ∧ (IndexTime.ofMicroseconds east 999999).read = .ok before ∧
    (IndexTime.plain ⟨Date.epoch, ⟨0, 0, 0⟩, none⟩ 0).read = .ok ⟨0, 0⟩ ∧ before.Before ⟨0, 0⟩ ∧
    west.Valid 0 ∧ (IndexTime.ofMicroseconds west 0).read = .error (.time .outOfCalendar) := by
  intro east west before
  obtain ⟨-, -, reads, -, -, ordered⟩ := plain_times_read
  have validEast : east.Valid 999999 := by
    refine ⟨by decide, by decide, by decide, by decide, by decide, by decide, by decide, ?_⟩
    rintro _ ⟨⟩
    decide
  have validWest : west.Valid 0 := by
    refine ⟨by decide, by decide, by decide, by decide, by decide, by decide, by decide, ?_⟩
    rintro _ ⟨⟩
    decide
  let clockEast : DateTime := ⟨Date.epoch, ⟨0, 30, 0⟩, some 60⟩
  let clockWest : DateTime := ⟨Date.last, ⟨23, 30, 0⟩, some (-60)⟩
  have readEast : (IndexTime.plain clockEast 999999).read = .ok before :=
    ((reads clockEast 999999).2 (by decide)).trans (congrArg Except.ok (by decide))
  have readEpoch : (IndexTime.plain ⟨Date.epoch, ⟨0, 0, 0⟩, none⟩ 0).read = .ok ⟨0, 0⟩ :=
    ((reads _ 0).2 (by decide)).trans (congrArg Except.ok (by decide))
  have readWest : (IndexTime.plain clockWest 0).read = .error (.time .outOfCalendar) :=
    (reads clockWest 0).1.mpr (by decide)
  have isEast : IndexTime.ofMicroseconds east 999999 = .plain clockEast 999999 := rfl
  have isWest : IndexTime.ofMicroseconds west 0 = .plain clockWest 0 := rfl
  have earlier := ordered clockEast ⟨Date.epoch, ⟨0, 0, 0⟩, none⟩ 999999 0 _ _ readEast readEpoch
  rw [isEast, isWest]
  exact ⟨validEast, readEast, readEpoch, earlier.2.mpr (by decide), validWest, readWest⟩

end CatalogConsole
