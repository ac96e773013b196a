import Mustache.Document.Yaml.Node
import Mustache.Number.Numeral
import Mustache.Value.Conversion

namespace Mustache.Document.Yaml

/-! What the text of a scalar means. Text that is quoted or in a block means
itself; plain text may be a word for nothing, a truth value or a number. -/

def isNullWord (text : String) : Bool :=
  text == "null" || text == "Null" || text == "NULL" || text == "~"

def readBool? (text : String) : Option Bool :=
  if text == "true" || text == "True" || text == "TRUE" then some true
  else if text == "false" || text == "False" || text == "FALSE" then some false
  else none

/-! ## Numbers -/

/-- The value of digits in a base up to sixteen, at least one. -/
def digitsIn? (base : Nat) (digits : List Char) : Option Nat :=
  if digits.isEmpty then none
  else digits.foldl (fun value digit => do
    let next ← hexValue? digit
    if next < base then return base * (← value) + next else none) (some 0)

/-- Decimal digits that start with a needless zero are no number. -/
def hasNeedlessZero (digits : List Char) : Bool :=
  1 < digits.length && digits.head? == some '0' && digits.all Char.isDigit

def readMagnitude? (text : List Char) : Option Nat :=
  match text with
  | '0' :: 'x' :: digits => digitsIn? 16 digits
  | '0' :: 'o' :: digits => digitsIn? 8 digits
  | '0' :: 'b' :: digits => digitsIn? 2 digits
  | digits => if hasNeedlessZero digits then none else digitsIn? 10 digits

/-- A whole number of at most 128 bits. -/
def readInteger? (text : List Char) : Option Int :=
  let number : Option Int :=
    match text with
    | '-' :: rest => (readMagnitude? rest).map fun magnitude => -(magnitude : Int)
    | '+' :: rest => (readMagnitude? rest).map Int.ofNat
    | rest => (readMagnitude? rest).map Int.ofNat
  number.filter fun number => -(Number.twoTo 127 : Int) ≤ number && number < Number.twoTo 128

/-- The float that is written, infinities and what is no number among them. -/
def readDecimal? (text : List Char) : Option Float :=
  let word := String.ofList text
  if word == ".nan" || word == ".NaN" || word == ".NAN" then some Number.notANumber
  else if word == "-.inf" || word == "-.Inf" || word == "-.INF" then some (-Number.infinity)
  else
    let (unsigned, twice) :=
      match text with
      | '+' :: rest => (rest, rest.head? == some '+' || rest.head? == some '-')
      | rest => (rest, false)
    let word := String.ofList unsigned
    if twice then none
    else if word == ".inf" || word == ".Inf" || word == ".INF" then some Number.infinity
    else (Number.readFloat? .double unsigned).filter Float.isFinite

variable {Lambda : Type}

/-- Whole numbers beyond 64 bits are refused. -/
def integerValue? (number : Int) : Option (Value Lambda) :=
  if 0 ≤ number then
    if number < Number.twoTo 64 then some (.ofNumber (UInt64.ofNat number.toNat)) else none
  else if -(Number.twoTo 63 : Int) ≤ number then some (.integer (Int64.ofInt number))
  else none

/-! ## Scalars -/

def plainValue? (text : String) : Option (Value Lambda) :=
  if text.isEmpty || isNullWord text then some .absent
  else
    match readBool? text, readInteger? text.toList with
    | some value, _ => some (.bool value)
    | none, some number => integerValue? number
    | none, none =>
      let unsigned :=
        match text.toList with
        | sign :: rest => if sign == '-' || sign == '+' then rest else sign :: rest
        | [] => []
      let float := if hasNeedlessZero unsigned then none else readDecimal? text.toList
      some ((float.map Value.ofFinite).getD (.text text))

/-- Tags that say how a scalar is to be read. -/
def coreTag (name : String) : String :=
  "tag:yaml.org,2002:" ++ name

/-- Tags that have a meaning only to the writer of a document. -/
def isLocalTag (tag : Option String) : Bool :=
  tag.any fun tag => tag.toList.head? == some '!'

/-- A scalar whose tag asks for what its text is not is refused, and so is one
with a local tag. -/
def scalarValue? (tag : Option String) (text : String) (style : Style) : Option (Value Lambda) :=
  match tag with
  | none => if style = .plain then plainValue? text else some (.text text)
  | some tag =>
    if isLocalTag (some tag) then none
    else if tag == coreTag "bool" then (readBool? text).map .bool
    else if tag == coreTag "int" then (readInteger? text.toList).bind integerValue?
    else if tag == coreTag "float" then (readDecimal? text.toList).map Value.ofFinite
    else if tag == coreTag "null" then if isNullWord text then some .absent else none
    else some (.text text)

end Mustache.Document.Yaml
