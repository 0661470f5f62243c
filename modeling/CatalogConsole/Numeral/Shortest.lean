import CatalogConsole.Numeral.Binary64

/-! # Shortest decimal text

`shortest` finds the decimal number with the fewest digits that still reads back as a given binary
one.  A number reads back when it lies between the midpoints to the two neighbours of the binary
number; the midpoints themselves count when the significand is even, because reading then rounds
towards it.  The comparison is exact: all numbers are taken as fractions of natural numbers.
-/
namespace CatalogConsole.Numeral

/-- A power of ten. -/
def tenTo (n : Nat) : Nat := Nat.pow 10 n

/-- The decimal number `0.d₁d₂… * 10 ^ point`, where `d₁d₂…` are the digits. -/
structure Decimal where
  digits : List Char
  point : Int
  deriving DecidableEq, Repr

/-- Fractions with a common denominator: a number and the two bounds between which a decimal
number reads back as it. -/
structure Neighbourhood where
  low : Nat
  value : Nat
  high : Nat
  denominator : Nat
  closed : Bool
  deriving DecidableEq, Repr

namespace Neighbourhood

/-- The neighbourhood of `significand * 2 ^ exponent`.  Below the smallest significand of a power
of two the numbers lie twice as close, except at the smallest exponent. -/
def ofBinary (significand : Nat) (exponent : Int) : Neighbourhood :=
  let below := if significand = Binary64.leadingBit ∧ exponent > -1074 then 1 else 2
  let scale := 1 <<< exponent.toNat
  { low := (4 * significand - below) * scale
    value := 4 * significand * scale
    high := (4 * significand + 2) * scale
    denominator := 4 <<< (-exponent).toNat
    closed := significand % 2 = 0 }

/-- Whether the fraction `n / d` lies between the bounds. -/
def admits (b : Neighbourhood) (n d : Nat) : Bool :=
  if b.closed then b.low * d ≤ n * b.denominator && n * b.denominator ≤ b.high * d
  else b.low * d < n * b.denominator && n * b.denominator < b.high * d

/-- The place of the point: the number of digits before it, or minus the number of zeros after
it that come before the first other digit. -/
def point (b : Neighbourhood) : Int :=
  (Nat.toDigits 10 (b.value * tenTo 330 / b.denominator)).length - 330

/-- The better of the two multiples of `10 ^ (point - count)` next to the number, if one of them
reads back.  Of two it is the nearer, and at the same distance the even one. -/
def nearest? (b : Neighbourhood) (point : Int) (count : Nat) : Option Nat :=
  let up := tenTo (point - count).toNat
  let down := tenTo (count - point).toNat
  let unit := up * b.denominator
  let n := b.value * down / unit
  let twice := 2 * (b.value * down % unit)
  let admitted := fun k => b.admits (k * up) down
  match admitted n, admitted (n + 1) with
  | true, true => some (if twice < unit ∨ twice = unit ∧ n % 2 = 0 then n else n + 1)
  | true, false => some n
  | false, true => some (n + 1)
  | false, false => none

/-- The shortest decimal number that reads back.  Seventeen digits always do. -/
def shortest (b : Neighbourhood) : Decimal :=
  let point := b.point
  match (List.range' 1 17).findSome? fun k => (b.nearest? point k).map (k, ·) with
  | none => ⟨['0'], 0⟩
  | some (k, n) =>
    let digits := Nat.toDigits 10 n
    ⟨(digits.reverse.dropWhile (· = '0')).reverse, point + digits.length - k⟩

end Neighbourhood

/-- How a real number is spelled: the range of exponents that are written with a point and no
power of ten, and the least number of digits of a power of ten. -/
structure RealStyle where
  leastPlain : Int
  mostPlain : Int
  exponentDigits : Nat
  deriving DecidableEq, Repr

namespace RealStyle

/-- Digits with a point in them, with zeros where the digits do not reach the point and with at
least one digit on both sides. -/
def plain (d : Decimal) : List Char :=
  if d.point ≤ 0 then '0' :: '.' :: List.replicate (-d.point).toNat '0' ++ d.digits
  else
    let whole := (d.digits.take d.point.toNat).rightpad d.point.toNat '0'
    let rest := d.digits.drop d.point.toNat
    whole ++ '.' :: (if rest = [] then ['0'] else rest)

/-- Digits with a point after the first and a signed power of ten. -/
def powered (style : RealStyle) (d : Decimal) : List Char :=
  let exponent := d.point - 1
  let mantissa := match d.digits with
    | [] => ['0']
    | [first] => [first]
    | first :: rest => first :: '.' :: rest
  mantissa ++ 'e' :: (if exponent < 0 then '-' else '+') ::
    (Nat.toDigits 10 exponent.natAbs).leftpad style.exponentDigits '0'

/-- The text of a decimal number that is not negative. -/
def unsigned (style : RealStyle) (d : Decimal) : List Char :=
  if style.leastPlain ≤ d.point - 1 ∧ d.point - 1 ≤ style.mostPlain then plain d
  else style.powered d

/-- The text of a binary number. -/
def shown (style : RealStyle) : Binary64 → String
  | .nan => "nan"
  | .infinite negative => if negative then "-inf" else "inf"
  | .finite negative significand exponent =>
    let digits :=
      if significand = 0 then ['0', '.', '0']
      else style.unsigned (Neighbourhood.ofBinary significand exponent).shortest
    String.ofList (if negative then '-' :: digits else digits)

end RealStyle

end CatalogConsole.Numeral
