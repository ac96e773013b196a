import Mustache.Document.Toml.Text
import Mustache.Number.Numeral
import Mustache.Value.Conversion

namespace Mustache.Document.Toml

/-! Numbers of a TOML document. -/

/-- Digits with single underscores between them, behind the first digit. The
underscores are left out. -/
def furtherDigits? (isDigit : Char → Bool) : List Char → Option (List Char × List Char)
  | [] => some ([], [])
  | ['_'] => none
  | '_' :: digit :: rest =>
    if isDigit digit then
      (furtherDigits? isDigit rest).map fun (digits, behind) => (digit :: digits, behind)
    else none
  | digit :: rest =>
    if isDigit digit then
      (furtherDigits? isDigit rest).map fun (digits, behind) => (digit :: digits, behind)
    else some ([], digit :: rest)

def readDigits (isDigit : Char → Bool) : Reader (List Char) := do
  match ← get with
  | digit :: rest =>
    if isDigit digit then
      match furtherDigits? isDigit rest with
      | some (digits, behind) =>
        set behind
        return digit :: digits
      | none => failure
    else failure
  | [] => failure

/-- Decimal digits of which the first is no zero, or a zero alone. -/
def readPlainDigits : Reader (List Char) := do
  if ← pass "0" then return ['0'] else readDigits Char.isDigit

def readSign : Reader Bool := do
  if ← pass "-" then return true
  let _ ← pass "+"
  return false

variable {Lambda : Type}

def wholeNumber (negative : Bool) (magnitude : Nat) : Reader (Value Lambda) := do
  let number : Int := if negative then -magnitude else magnitude
  if -(Number.twoTo 63 : Int) ≤ number && number < Number.twoTo 63 then
    return .integer (Int64.ofInt number)
  else failure

/-- A number in another base, behind its mark. -/
def readInBase (base : Nat) : Reader (Value Lambda) := do
  let isDigit (character : Char) : Bool := (hexValue? character).any (· < base)
  let digits ← readDigits isDigit
  let values := digits.filterMap hexValue?
  wholeNumber false (values.foldl (fun number digit => base * number + digit) 0)

def readPower : Reader Int := do
  let negative ← readSign
  let digits ← readDigits Char.isDigit
  let magnitude : Int := Number.digitsValue digits
  return if negative then -magnitude else magnitude

/-- Infinities and what is no number are nothing; a number that is too large for
a float is refused, and one that is too low is nothing. -/
def readNumber : Reader (Value Lambda) := do
  if ← pass "0x" then return ← readInBase 16
  if ← pass "0o" then return ← readInBase 8
  if ← pass "0b" then return ← readInBase 2
  let negative ← readSign
  if (← pass "inf") || (← pass "nan") then return .absent
  let whole ← readPlainDigits
  let point ← pass "."
  let fraction ← if point then readDigits Char.isDigit else pure []
  let marked ← do if ← pass "e" then pure true else pass "E"
  if point || marked then
    let power ← if marked then readPower else pure 0
    let float := Number.ofDecimal .double negative (Number.digitsValue (whole ++ fraction))
      (power - fraction.length)
    if !negative && !float.isFinite then failure
    return .ofFinite float
  wholeNumber negative (Number.digitsValue whole)

end Mustache.Document.Toml
