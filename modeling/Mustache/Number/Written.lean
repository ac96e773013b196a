import Mustache.Number.Shortest

namespace Mustache.Number

/-! How numbers are written. -/

def decimalDigits (number : Nat) : List Char :=
  Nat.toDigits 10 number

def wholeText (number : Int) : String :=
  let digits := decimalDigits number.natAbs
  String.ofList (if number < 0 then '-' :: digits else digits)

namespace Decimal

/-- All digits in their places, with a point only before a fraction. -/
def positional (decimal : Decimal) : List Char :=
  let digits := decimalDigits decimal.digits
  if 0 ≤ decimal.exponent then digits ++ List.replicate decimal.exponent.toNat '0'
  else
    let places := decimal.exponent.natAbs
    let padded := List.replicate (places + 1 - digits.length) '0' ++ digits
    let (whole, fraction) := padded.splitAt (padded.length - places)
    whole ++ '.' :: fraction

/-- One digit before the point and the power of ten behind the others. -/
def scientific (decimal : Decimal) : List Char :=
  match decimalDigits decimal.digits with
  | [] => []
  | first :: rest =>
    let power := decimal.exponent + rest.length
    let fraction := if rest.isEmpty then [] else '.' :: rest
    first :: (fraction ++ 'e' :: (wholeText power).toList)

example : positional ⟨125, -2⟩ = "1.25".toList := by decide +kernel

example : positional ⟨5, -3⟩ = "0.005".toList := by decide +kernel

example : scientific ⟨125, 20⟩ = "1.25e22".toList := by decide +kernel

end Decimal

/-- The text of a float, given how a finite number without its sign is written. -/
def floatTextWith (write : Binary → List Char) (number : Float) : String :=
  match Binary.ofFloat? number with
  | some binary =>
    let magnitude := write binary
    String.ofList (if binary.negative then '-' :: magnitude else magnitude)
  | none => if number.isNaN then "NaN" else if number < 0 then "-inf" else "inf"

/-- A float as it is output: the fewest digits that read back, never a power of
ten, and no point in a whole number. -/
def floatText (number : Float) : String :=
  floatTextWith (fun binary => binary.shortest.positional) number

/-- A float as messages show it: a whole number ends in `.0`, and numbers below
`1e-4` or not below `1e16` have a power of ten. -/
def floatDetail (number : Float) : String :=
  floatTextWith write number
where
  write (binary : Binary) : List Char :=
    let decimal := binary.shortest
    let size := decimal.exponent + (decimalDigits decimal.digits).length
    if decimal.digits ≠ 0 && (size ≤ -4 || 16 < size) then decimal.scientific
    else
      let text := decimal.positional
      if text.contains '.' then text else text ++ ['.', '0']

end Mustache.Number
