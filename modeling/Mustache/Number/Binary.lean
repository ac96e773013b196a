import Mustache.Number.Power

namespace Mustache.Number

/-! Floating point numbers as whole numbers times powers of two, and the
nearest of them to a fraction. -/

/-- A finite number: its sign, and the value `significand * 2 ^ exponent`. -/
structure Binary where
  negative : Bool
  significand : Nat
  exponent : Int
deriving DecidableEq, Repr

/-- Sizes of a binary floating point format. -/
structure BinaryFormat where
  /-- Bits of the significand of a normal number. -/
  precision : Nat
  /-- Exponent of the smallest numbers. -/
  minExponent : Int
  /-- Exponent of the largest numbers. -/
  maxExponent : Int

namespace BinaryFormat

def double : BinaryFormat := ⟨53, -1074, 971⟩

def single : BinaryFormat := ⟨24, -149, 104⟩

/-- The number of the format nearest to `numerator / denominator`; of two that
are equally near, the one with the even significand. None if it is too large. -/
def nearest? (format : BinaryFormat) (numerator denominator : Nat) : Option (Nat × Int) :=
  if numerator = 0 then some (0, 0)
  else
    let guess : Int := (numerator.log2 : Int) - denominator.log2 - format.precision
    let quotientAt (exponent : Int) : Nat × Nat :=
      (numerator <<< (-exponent).toNat, denominator <<< exponent.toNat)
    let low := max guess format.minExponent
    let (top, bottom) := quotientAt low
    let exponent := if top / bottom < twoTo format.precision then low else low + 1
    let (top, bottom) := quotientAt exponent
    let whole := top / bottom
    let twice := 2 * (top % bottom)
    let up := bottom < twice || (bottom == twice && whole % 2 == 1)
    let rounded := if up then whole + 1 else whole
    let carried := rounded == twoTo format.precision
    let significand := if carried then twoTo (format.precision - 1) else rounded
    let exponent := if carried then exponent + 1 else exponent
    if format.maxExponent < exponent then none else some (significand, exponent)

/-- One third in three bits is five sixteenths. -/
example : nearest? ⟨3, -10, 10⟩ 1 3 = some (5, -4) := by decide +kernel

/-- Halfway between two numbers the even one is taken. -/
example : nearest? ⟨3, -10, 10⟩ 9 1 = some (4, 1) := by decide +kernel

end BinaryFormat

namespace Binary

/-- The finite number that a float is; none for an infinity and for no number. -/
def ofFloat? (number : Float) : Option Binary :=
  let bits := number.toBits.toNat
  let negative := bits >>> 63 == 1
  let field := (bits >>> 52) % 2048
  let fraction := bits % twoTo 52
  if field = 2047 then none
  else if field = 0 then some ⟨negative, fraction, -1074⟩
  else some ⟨negative, fraction + twoTo 52, (field : Int) - 1075⟩

/-- The float of a number that has at most as many bits as a float and is not
out of its range. -/
def toFloat (number : Binary) : Float :=
  let sign := if number.negative then twoTo 63 else 0
  let room := (52 - number.significand.log2 : Nat)
  let shift := min (room : Int) (number.exponent + 1074)
  let significand := number.significand <<< shift.toNat
  let magnitude :=
    if number.significand = 0 then 0
    else if significand < twoTo 52 then significand
    else ((number.exponent - shift + 1075).toNat <<< 52) + (significand - twoTo 52)
  .ofBits (.ofNat (sign + magnitude))

/-- The whole number that a finite number is, if it is one. -/
def toInt? (number : Binary) : Option Int :=
  let divisor := twoTo (-number.exponent).toNat
  if number.significand % divisor = 0 then
    let magnitude : Int := (number.significand / divisor) <<< number.exponent.toNat
    some (if number.negative then -magnitude else magnitude)
  else none

example : toInt? ⟨true, 12, -1⟩ = some (-6) := by decide +kernel

example : toInt? ⟨false, 3, -1⟩ = none := by decide +kernel

end Binary

def infinity : Float := .ofBits 0x7FF0000000000000

def notANumber : Float := .ofBits 0x7FF8000000000000

/-- The number of a format nearest to `significand * 10 ^ exponent` with its sign,
as a float. A number too large for the format becomes infinite. -/
def ofDecimal (format : BinaryFormat) (negative : Bool) (significand : Nat) (exponent : Int) :
    Float :=
  let digits : Int := (Nat.toDigits 10 significand).length
  let rounded :=
    if significand = 0 || digits + exponent < -400 then some (0, 0)
    else if 400 < digits + exponent then none
    else format.nearest? (significand * tenTo exponent.toNat) (tenTo (-exponent).toNat)
  match rounded with
  | some (significand, exponent) => Binary.toFloat ⟨negative, significand, exponent⟩
  | none => if negative then -infinity else infinity

end Mustache.Number
