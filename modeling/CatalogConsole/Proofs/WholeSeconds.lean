import CatalogConsole.Time.Timestamp
import Mathlib.Algebra.Group.Nat.Defs

/-! # Whole seconds through the binary format

The client library turns an instant into seconds by way of a number of the binary format, and drops
the fraction of that number.  The number is only the nearest to the seconds, so it could be a whole
one where they are not.

It is not while the last place of the number is less than twice the difference that the smallest
fraction makes to a whole number: the rounding then moves less than that, and cannot reach the next
whole number (`Binary64.wholeQuotient_eq_tdiv`).  With millionths, this is so up to 2 ^ 34 seconds,
which is well over 500 years, to either side of 1970 (`Timestamp.ofInstant_of_near`).
-/
namespace CatalogConsole

namespace Numeral

theorem div_le_nearestQuotient (n d : Nat) : n / d ≤ nearestQuotient n d := by
  simp only [nearestQuotient]
  split
  · exact Nat.le_refl _
  · exact Nat.le_succ _

/-- A whole quotient is the nearest to itself. -/
theorem nearestQuotient_one (n : Nat) : nearestQuotient n 1 = n := by
  simp [nearestQuotient, Nat.mod_one]

namespace Binary64

/-- **The nearest number of places has the whole part of the quotient**, if so many places make up a
whole that half of one is less than any fraction. -/
theorem wholePart_unitsNearest {n d k : Nat} (positive : 0 < d) (fine : d < 2 ^ (k + 2)) :
    wholePart (unitsNearest n d (.negSucc k)) (.negSucc k) = n / d := by
  let places := 2 ^ (k + 1)
  have some : 0 < places := Nat.two_pow_pos _
  have fine' : d < 2 * places := by
    have double : 2 ^ (k + 2) = 2 * places := Nat.pow_succ'
    omega
  let whole := n / d
  have parts : d * whole + n % d = n := Nat.div_add_mod n d
  have fraction : n % d < d := Nat.mod_lt n positive
  let units := nearestQuotient (n * places) d
  -- so many units are at least those of the whole part
  have atLeast : whole * places ≤ units := by
    refine Nat.le_trans ?_ (div_le_nearestQuotient _ _)
    rw [Nat.le_div_iff_mul_le positive]
    calc whole * places * d = d * whole * places := by rw [Nat.mul_comm, Nat.mul_assoc]
      _ ≤ n * places := Nat.mul_le_mul_right _ (by omega)
  -- and fewer than those of the next whole number
  have fewer : units < (whole + 1) * places := by
    have half : 2 * (d * units) ≤ 2 * (n * places) + d := mul_nearestQuotient_le _ _
    have below : n * places + places ≤ d * (whole + 1) * places := by
      rw [← Nat.succ_mul]
      refine Nat.mul_le_mul_right _ ?_
      rw [Nat.mul_succ]
      omega
    have strict : d * units < d * ((whole + 1) * places) := by
      rw [← Nat.mul_assoc]
      omega
    exact Nat.lt_of_mul_lt_mul_left strict
  rw [wholePart, unitsNearest, Nat.shiftLeft_eq, Nat.shiftRight_eq_div_pow]
  exact Nat.div_eq_of_lt_le atLeast fewer

/-- The last place of a quotient below a power of two lies 53 bits behind that power. -/
theorem lastPlace_le {n d j : Nat} (below : n < 2 ^ j * d) : lastPlace n d ≤ (j : Int) - 53 := by
  have bits : n.log2 ≤ j + d.log2 := by
    by_cases zero : n = 0
    · rw [zero, Nat.log2_zero]
      exact Nat.zero_le _
    · rw [← Nat.lt_succ_iff, Nat.log2_lt zero, Nat.succ_eq_add_one, Nat.add_assoc, Nat.pow_add]
      exact Nat.lt_trans below (Nat.mul_lt_mul_of_pos_left Nat.lt_log2_self (Nat.two_pow_pos j))
  have unreached : reaches n d j = false := by
    have short : ¬ d <<< j ≤ n := by
      rw [Nat.shiftLeft_eq, Nat.mul_comm]
      exact Nat.not_le.mpr below
    exact decide_eq_false short
  simp only [lastPlace]
  split
  · rename_i reached
    have lower : (n.log2 : Int) - d.log2 ≠ j := by
      intro top
      rw [top, unreached] at reached
      cases reached
    omega
  · omega

/-- A whole part with its sign is a quotient rounded towards zero. -/
theorem withSign_div (n : Int) (d : Nat) : withSign (n < 0) (n.natAbs / d) = n.tdiv d := by
  cases n with
  | ofNat m => rfl
  | negSucc m =>
    rw [withSign, if_pos (decide_eq_true (Int.negSucc_lt_zero m))]
    rfl

/-- **A quotient that is not too large is rounded towards zero**, as if nothing were lost before. -/
theorem wholeQuotient_eq_tdiv {n : Int} {d j : Nat} (fraction : 1 < d)
    (below : n.natAbs < 2 ^ j * d) (fine : 2 ^ j * d < 2 ^ 54) : wholeQuotient n d = n.tdiv d := by
  have behind := lastPlace_le below
  have early : j + 1 < 54 := by
    refine (Nat.pow_lt_pow_iff_right Nat.one_lt_two).mp (Nat.lt_of_le_of_lt ?_ fine)
    rw [Nat.pow_succ]
    exact Nat.mul_le_mul_left _ fraction
  have whole : wholePart (unitsNearest n.natAbs d (lastPlace n.natAbs d)) (lastPlace n.natAbs d) =
      n.natAbs / d := by
    match place : lastPlace n.natAbs d with
    | .ofNat k =>
      rw [place, Int.ofNat_eq_natCast] at behind
      omega
    | .negSucc k =>
      rw [place, Int.negSucc_eq] at behind
      refine wholePart_unitsNearest (Nat.lt_trans Nat.one_pos fraction) ?_
      have places : 2 ^ 54 ≤ 2 ^ j * 2 ^ (k + 2) := by
        rw [← Nat.pow_add]
        exact Nat.pow_le_pow_right (by decide) (by omega)
      exact Nat.lt_of_mul_lt_mul_left (Nat.lt_of_lt_of_le fine places)
  rw [wholeQuotient, whole, withSign_div]

/-- A whole number in the binary format is at most twice as large. -/
theorem natAbs_wholeQuotient_one_le (n : Int) : (wholeQuotient n 1).natAbs ≤ 2 * n.natAbs := by
  have size (negative : Bool) (m : Nat) : (withSign negative m).natAbs = m := by
    cases negative <;> simp [withSign]
  rw [wholeQuotient, size]
  match place : lastPlace n.natAbs 1 with
  | .negSucc k =>
    -- places behind the point are enough for a whole number
    rw [unitsNearest, nearestQuotient_one, wholePart, Nat.shiftLeft_shiftRight]
    omega
  | .ofNat k =>
    -- a last place in front of the point is no larger than the number
    have inside : 2 ^ k ≤ n.natAbs := by
      have one : Nat.log2 1 = 0 := by decide
      simp only [lastPlace, one, Int.ofNat_eq_natCast] at place
      have bits : k ≤ n.natAbs.log2 ∧ n.natAbs.log2 ≠ 0 := by
        split at place <;> omega
      have positive : n.natAbs ≠ 0 := by
        intro zero
        rw [zero, Nat.log2_zero] at bits
        exact bits.2 rfl
      exact Nat.le_trans (Nat.pow_le_pow_right (by decide) bits.1) (Nat.log2_self_le positive)
    have half := mul_nearestQuotient_le n.natAbs (2 ^ k)
    rw [unitsNearest, wholePart, Nat.shiftLeft_eq, Nat.shiftLeft_eq, Nat.one_mul, Nat.mul_comm]
    omega

end Binary64

end Numeral

namespace Timestamp

open Numeral

/-- **The timestamp of an instant** a number of seconds and nanoseconds after the start of 1970 when
its whole microseconds are turned into seconds and the fraction is dropped. -/
def truncated (seconds nanos : Int) : Timestamp :=
  ⟨(1000000 * seconds + nanos / 1000).tdiv 1000000, nanos⟩

/-- Nothing is dropped from the start of 1970 on, or if there is no whole microsecond.  Else the
seconds are one more. -/
theorem truncated_eq {nanos : Int} (low : 0 ≤ nanos) (high : nanos < nanosPerSecond) (seconds : Int) :
    truncated seconds nanos =
      ⟨if 0 ≤ seconds ∨ nanos < 1000 then seconds else seconds + 1, nanos⟩ := by
  rw [nanosPerSecond] at high
  have dropped : (1000000 * seconds + nanos / 1000).tdiv 1000000 =
      if 0 ≤ seconds ∨ nanos < 1000 then seconds else seconds + 1 := by
    rw [Int.tdiv_eq_ediv, Int.sign_eq_one_of_pos (by decide)]
    split <;> split <;> omega
  rw [truncated, dropped]

/-- So the seconds and nanoseconds are kept, or there is one second more. -/
theorem truncated_eq_or {nanos : Int} (low : 0 ≤ nanos) (high : nanos < nanosPerSecond)
    (seconds : Int) :
    (truncated seconds nanos = ⟨seconds, nanos⟩ ↔ 0 ≤ seconds ∨ nanos < 1000) ∧
      (truncated seconds nanos ≠ ⟨seconds, nanos⟩ →
        truncated seconds nanos = ⟨seconds + 1, nanos⟩) := by
  rw [truncated_eq low high]
  by_cases kept : 0 ≤ seconds ∨ nanos < 1000
  · simp [kept]
  · have more : seconds + 1 ≠ seconds := by omega
    simp [kept, more]

variable {seconds nanos : Int}

theorem microseconds_eq (low : 0 ≤ nanos) : (microseconds nanos : Int) = nanos / 1000 := by
  rw [microseconds]
  omega

theorem fits_nanos (low : 0 ≤ nanos) (high : nanos < nanosPerSecond) : Fits 32 nanos := by
  have limit : ((1 <<< (32 - 1) : Nat) : Int) = 2147483648 := rfl
  rw [nanosPerSecond] at high
  rw [Fits, limit]
  omega

/-- **Every instant with nanoseconds below a second has a timestamp**, with those nanoseconds. -/
theorem ofInstant_eq_ok (low : 0 ≤ nanos) (high : nanos < nanosPerSecond) (seconds : Int) :
    ofInstant seconds nanos =
      .ok ⟨Binary64.wholeQuotient (1000000 * seconds + nanos / 1000) 1000000, nanos⟩ := by
  rw [ofInstant, if_neg (Int.not_le.mpr high), if_neg (not_not_intro (fits_nanos low high)),
    microseconds_eq low]

/-- **Within 2 ^ 34 seconds of the start of 1970** nothing but the fraction is lost. -/
theorem ofInstant_of_near (low : 0 ≤ nanos) (high : nanos < nanosPerSecond)
    (near : seconds.natAbs < 2 ^ 34) : ofInstant seconds nanos = .ok (truncated seconds nanos) := by
  have below : (1000000 * seconds + nanos / 1000).natAbs < 2 ^ 34 * 1000000 := by
    rw [nanosPerSecond] at high
    omega
  have whole := Binary64.wholeQuotient_eq_tdiv (by decide) below (by decide)
  rw [ofInstant_eq_ok low high, whole]
  rfl

/-- Farther away more can be lost: an instant a millionth short of a second counts as that second.
-/
example : ofInstant (2 ^ 34) 999999000 = .ok ⟨2 ^ 34 + 1, 999999000⟩ := rfl

/-- The number of days of an instant that has a date is one that a span can have. -/
theorem dateFault?_of_inCalendar (inside : DateTime.InCalendar seconds) :
    dateFault? seconds = none := by
  have first : DateTime.firstSecond = -62135596800 := by decide
  have last : DateTime.lastSecond = 253402300799 := by decide
  have size := Binary64.natAbs_wholeQuotient_one_le (1000000 * seconds)
  have limit : ((1 <<< (32 - 1) : Nat) : Int) = 2147483648 := rfl
  have few : Fits 32 (dayCount seconds) ∧ (dayCount seconds).natAbs ≤ TimeFault.longestSpan := by
    rw [DateTime.InCalendar, first, last] at inside
    rw [Fits, limit, dayCount, TimeFault.longestSpan]
    omega
  simp [dateFault?, TimeFault.ofDays?, few, inside]

theorem fieldFault?_of_inCalendar (inside : DateTime.InCalendar seconds) (low : 0 ≤ nanos)
    (high : nanos < nanosPerSecond) : fieldFault? seconds nanos = none := by
  have first : DateTime.firstSecond = -62135596800 := by decide
  have last : DateTime.lastSecond = 253402300799 := by decide
  have limit : ((1 <<< (64 - 1) : Nat) : Int) = 9223372036854775808 := rfl
  have fits : Fits 64 seconds := by
    rw [DateTime.InCalendar, first, last] at inside
    rw [Fits, limit]
    omega
  simp [fieldFault?, fits, fits_nanos low high]

end Timestamp

end CatalogConsole
