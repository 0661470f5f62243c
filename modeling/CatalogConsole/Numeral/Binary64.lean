/-! # Binary floating-point numbers

A number in the 64-bit binary interchange format, decoded from its bits: a sign, a significand
and a power of two, or one of the values that are no number.
-/
namespace CatalogConsole.Numeral

/-- A value of the 64-bit binary format.  The finite value is `significand * 2 ^ exponent`, with
a minus sign if `negative`. -/
inductive Binary64
  | nan
  | infinite (negative : Bool)
  | finite (negative : Bool) (significand : Nat) (exponent : Int)
  deriving DecidableEq, Repr

namespace Binary64

/-- The number of values that the 52 bits of a fraction can have, which is also the value of the
leading bit that comes before them. -/
def leadingBit : Nat := 0x10000000000000

/-- Decodes sign, biased exponent and fraction.  A biased exponent of zero has no implicit leading
bit, and one of all ones marks the infinities and the values that are no number. -/
def ofBits (bits : Nat) : Binary64 :=
  let fraction := bits % leadingBit
  let biased := (bits >>> 52) % 0x800
  let negative := decide ((bits >>> 63) % 2 = 1)
  if biased = 0x7ff then (if fraction = 0 then infinite negative else nan)
  else if biased = 0 then finite negative fraction (-1074)
  else finite negative (leadingBit + fraction) ((biased : Int) - 1075)

/-- The whole part of `significand * 2 ^ exponent`. -/
def wholePart (significand : Nat) : Int → Nat
  | .ofNat k => significand <<< k
  | .negSucc k => significand >>> (k + 1)

/-- A number with its sign. -/
def withSign (negative : Bool) (n : Nat) : Int :=
  if negative then -(n : Int) else n

end Binary64

end CatalogConsole.Numeral
