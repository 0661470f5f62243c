import CatalogConsole.Numeral.Binary64

/-! # Rounding to the binary format

A quotient of whole numbers is seldom a number of the 64-bit binary format, and a whole number is
not always one either.  `Binary64.wholeQuotient` takes the number of the format that comes nearest
to a quotient, and drops its fraction.  The 53 bits of a significand decide how large the last place
is, and the quotient is rounded to a whole number of last places.  All comparisons are between whole
numbers, so nothing is lost before that one rounding.
-/
namespace CatalogConsole.Numeral

/-- The whole number nearest to `n / d`; of two at the same distance, the even one. -/
def nearestQuotient (n d : Nat) : Nat :=
  let twice := 2 * (n % d)
  if twice < d ∨ twice = d ∧ n / d % 2 = 0 then n / d else n / d + 1

/-- The rounded quotient is at most half a unit too large. -/
theorem mul_nearestQuotient_le (n d : Nat) : 2 * (d * nearestQuotient n d) ≤ 2 * n + d := by
  have h := Nat.div_add_mod n d
  simp only [nearestQuotient]
  split
  · omega
  · rw [Nat.mul_add]; omega

namespace Binary64

/-- Whether `n / d` is at least `2 ^ power`. -/
def reaches (n d : Nat) : Int → Bool
  | .ofNat k => d <<< k ≤ n
  | .negSucc k => d ≤ n <<< (k + 1)

/-- The exponent of the last place of a significand of 53 bits that begins with the first bit of
`n / d`.  The two logarithms give the place of that first bit, or the place above it.  No last place
lies below the smallest exponent of the format. -/
def lastPlace (n d : Nat) : Int :=
  let top : Int := (n.log2 : Int) - d.log2
  max (-1074) (if reaches n d top then top - 52 else top - 53)

/-- The number of units of `2 ^ place` that comes nearest to `n / d`. -/
def unitsNearest (n d : Nat) : Int → Nat
  | .ofNat k => nearestQuotient n (d <<< k)
  | .negSucc k => nearestQuotient (n <<< (k + 1)) d

/-- The whole part of the number of the format nearest to `n / d`, which is the one with the even
significand if two are equally near.  A quotient beyond the largest number of the format is rounded
to 53 bits like all others. -/
def wholeQuotient (n : Int) (d : Nat) : Int :=
  let place := lastPlace n.natAbs d
  withSign (n < 0) (wholePart (unitsNearest n.natAbs d place) place)

end Binary64

end CatalogConsole.Numeral
