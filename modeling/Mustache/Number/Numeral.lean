import Mustache.Number.Binary

namespace Mustache.Number

/-! How numbers are read from text. -/

def digitValue (digit : Char) : Nat :=
  digit.toNat - '0'.toNat

def digitsValue (digits : List Char) : Nat :=
  digits.foldl (fun value digit => 10 * value + digitValue digit) 0

/-- A sign is optional; `true` stands for a minus sign. -/
def readSign (text : List Char) : Bool × List Char :=
  match text with
  | '-' :: rest => (true, rest)
  | '+' :: rest => (false, rest)
  | rest => (false, rest)

/-- Digits only, at least one, behind an optional sign. -/
def readInt? (text : List Char) : Option Int :=
  let (negative, digits) := readSign text
  if digits.isEmpty || !digits.all Char.isDigit then none
  else
    let value : Int := digitsValue digits
    some (if negative then -value else value)

def readNat? (text : List Char) : Option Nat :=
  match text with
  | '-' :: _ => none
  | _ => (readInt? text).map Int.natAbs

/-- A whole number of 64 bits with a sign. -/
def readInt64? (text : List Char) : Option Int64 :=
  (readInt? text).bind fun value =>
    if -(twoTo 63 : Int) ≤ value && value < twoTo 63 then some (Int64.ofInt value) else none

/-- A whole number of 64 bits without a sign. -/
def readUInt64? (text : List Char) : Option UInt64 :=
  (readNat? text).bind fun value => if value < twoTo 64 then some (UInt64.ofNat value) else none

/-- A power of ten behind `e` or `E`; a text that is used up has power zero. -/
def readPower? (text : List Char) : Option Int :=
  match text with
  | [] => some 0
  | mark :: rest => if mark == 'e' || mark == 'E' then readInt? rest else none

/-- A float: digits with an optional point among or around them and an optional
power of ten, or one of the words for infinity and for no number, in any case. -/
def readFloat? (format : BinaryFormat) (text : List Char) : Option Float :=
  let (negative, rest) := readSign text
  let word := String.ofList (rest.map Char.toLower)
  if word == "inf" || word == "infinity" then some (if negative then -infinity else infinity)
  else if word == "nan" then some notANumber
  else
    let whole := rest.takeWhile Char.isDigit
    let behind := rest.dropWhile Char.isDigit
    let (fraction, behind) :=
      match behind with
      | '.' :: behind => (behind.takeWhile Char.isDigit, behind.dropWhile Char.isDigit)
      | behind => ([], behind)
    if whole.isEmpty && fraction.isEmpty then none
    else
      (readPower? behind).map fun power =>
        ofDecimal format negative (digitsValue (whole ++ fraction)) (power - fraction.length)

example : readInt? "-12".toList = some (-12) := by decide

example : readInt? "1_2".toList = none := by decide

end Mustache.Number
