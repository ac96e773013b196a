import Mustache.Number.Binary

namespace Mustache.Number

/-! The shortest decimal that reads back as a given binary number. -/

/-- The value `digits * 10 ^ exponent`. -/
structure Decimal where
  digits : Nat
  exponent : Int
deriving DecidableEq, Repr

namespace Binary

/-- Four times the number and the ends of the interval that rounds to it, all
over one denominator: low end, number, high end, denominator. Below a power of
two the next number is only half as far as above it. -/
def interval (number : Binary) : Nat × Nat × Nat × Nat :=
  let below := if number.significand = twoTo 52 && -1074 < number.exponent then 1 else 2
  let scale (value : Nat) := value <<< number.exponent.toNat
  let four := 4 * number.significand
  (scale (four - below), scale four, scale (four + 2), 4 <<< (-number.exponent).toNat)

/-- The point of the grid of multiples of `10 ^ exponent` that reads back, of two
such points the nearer, of two equally near the larger. -/
def gridPoint? (number : Binary) (exponent : Int) : Option Nat :=
  let (low, value, high, denominator) := number.interval
  let up := tenTo (-exponent).toNat
  let unit := denominator * tenTo exponent.toNat
  let (low, value, high) := (low * up, value * up, high * up)
  let even := number.significand % 2 = 0
  let inside (point : Nat) : Bool :=
    (low < point || (even && low == point)) && (point < high || (even && high == point))
  let floor := value / unit
  let (lower, upper) := (floor * unit, (floor + 1) * unit)
  match inside lower, inside upper with
  | true, true => some (if value - lower < upper - value then floor else floor + 1)
  | true, false => some floor
  | false, true => some (floor + 1)
  | false, false => none

/-- Try finer and finer grids. -/
def shortestFrom (number : Binary) : Nat → Int → Decimal
  | 0, _ => ⟨0, 0⟩
  | rounds + 1, exponent =>
    match number.gridPoint? exponent with
    | some digits => ⟨digits, exponent⟩
    | none => shortestFrom number rounds (exponent - 1)

/-- The decimal with the fewest digits that reads back as the number. The first
grid is coarser than the number; no number needs more than seventeen digits. -/
def shortest (number : Binary) : Decimal :=
  if number.significand = 0 then ⟨0, 0⟩
  else
    let bits : Int := number.significand.log2 + number.exponent
    number.shortestFrom 24 (Int.fdiv (bits * 30103) 100000 + 2)

example : shortest ⟨false, 0x1999999999999A, -56⟩ = ⟨1, -1⟩ := by decide +kernel

example : shortest ⟨false, 1, -1074⟩ = ⟨5, -324⟩ := by decide +kernel

end Binary

end Mustache.Number
