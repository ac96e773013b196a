import Mustache.Number.Numeral
import Mustache.Value

namespace Mustache.Document

/-! Numbers of JSON. A number without point and power is a whole number as long
as it fits 64 bits. Any other number is read as a whole number of 64 bits, made
of its first digits, and then scaled by a power of ten in floating point, so its
last bit may differ from that of the nearest float. -/

def powerOfTen (exponent : Nat) : Float :=
  Number.ofDecimal .double false 1 exponent

/-- Scale by a power of ten, in steps of at most 308 powers. A number that
becomes too large is refused. -/
def scaleByPower? : (steps : Nat) → Float → Int → Option Float
  | 0, value, _ => some value
  | steps + 1, value, exponent =>
    if exponent.natAbs ≤ 308 then
      if 0 ≤ exponent then
        let scaled := value * powerOfTen exponent.natAbs
        if scaled.isInf then none else some scaled
      else some (value / powerOfTen exponent.natAbs)
    else if value == 0 then some value
    else if 0 ≤ exponent then none
    else scaleByPower? steps (value / powerOfTen 308) (exponent + 308)

def jsonFloat? (negative : Bool) (significand : Nat) (exponent : Int) : Option Float :=
  (scaleByPower? 4 (UInt64.ofNat significand).toFloat exponent).map fun value =>
    if negative then -value else value

/-- Digits that extend a number as long as it fits 64 bits; the number, how many
digits it took, and the digits that are left. -/
def takeDigits (significand count : Nat) : List Char → Nat × Nat × List Char
  | [] => (significand, count, [])
  | digit :: rest =>
    let next := 10 * significand + Number.digitValue digit
    if next < Number.twoTo 64 then takeDigits next (count + 1) rest
    else (significand, count, digit :: rest)

/-- A power of ten is a whole number of 32 bits; what goes beyond counts as
infinitely large or small. -/
def jsonPower (negative : Bool) (significand : Nat) (start : Int) (minus : Bool) (power : Nat) :
    Option Float :=
  if power < Number.twoTo 31 then
    jsonFloat? negative significand (if minus then start - power else start + power)
  else if significand ≠ 0 && !minus then none
  else some (if negative then -0.0 else 0.0)

def splitDigits (text : List Char) : List Char × List Char :=
  text.span Char.isDigit

/-- The power of ten behind the digits of a number, if there is one. -/
def readJsonPower (negative : Bool) (significand : Nat) (start : Int) (text : List Char) :
    Option (Float × List Char) :=
  match text with
  | mark :: rest =>
    if mark == 'e' || mark == 'E' then
      let (minus, rest) := Number.readSign rest
      let (digits, behind) := splitDigits rest
      if digits.isEmpty then none
      else
        (jsonPower negative significand start minus (Number.digitsValue digits)).map (·, behind)
    else (jsonFloat? negative significand start).map (·, text)
  | [] => (jsonFloat? negative significand start).map (·, text)

/-- A whole number without point and power. Minus zero is a float. -/
def wholeValue {Lambda : Type} (negative : Bool) (magnitude : Nat) : Value Lambda :=
  if negative then
    if 0 < magnitude && magnitude ≤ Number.twoTo 63 then .integer (Int64.ofInt (-(magnitude : Int)))
    else .float (-(UInt64.ofNat magnitude).toFloat)
  else if magnitude < Number.twoTo 63 then .integer (Int64.ofNat magnitude)
  else .float (UInt64.ofNat magnitude).toFloat

/-- A number at the start of a text and the text behind it. -/
def readJsonNumber? {Lambda : Type} (text : List Char) : Option (Value Lambda × List Char) :=
  let (negative, text) :=
    match text with
    | '-' :: rest => (true, rest)
    | rest => (false, rest)
  let (digits, behind) := splitDigits text
  if digits.isEmpty || (1 < digits.length && digits.head? == some '0') then none
  else
    let (significand, _, extra) := takeDigits 0 0 digits
    let start : Int := extra.length
    match behind with
    | '.' :: rest =>
      let (fraction, behind) := splitDigits rest
      if fraction.isEmpty then none
      else
        let (significand, count, _) := takeDigits significand 0 fraction
        (readJsonPower negative significand (start - count) behind).map fun (value, behind) =>
          (.float value, behind)
    | mark :: _ =>
      if mark == 'e' || mark == 'E' || !extra.isEmpty then
        (readJsonPower negative significand start behind).map fun (value, behind) =>
          (.float value, behind)
      else some (wholeValue negative significand, behind)
    | [] =>
      if extra.isEmpty then some (wholeValue negative significand, behind)
      else (jsonFloat? negative significand start).map fun value => (.float value, behind)

end Mustache.Document
