import Mustache.Document.Json
import Mustache.Number.Numeral
import Mustache.Text.Pieces

namespace Mustache.Web

/-! Addresses of machines in a network. -/

inductive Address where
  | short (bytes : List Nat)
  | long (groups : List Nat)
deriving DecidableEq, Repr

namespace Address

/-- A byte in decimal digits, without needless zeros at its start. -/
def readByte? (text : List Char) : Option Nat :=
  let needless := 1 < text.length && text.head? == some '0'
  if text.isEmpty || 3 < text.length || !text.all Char.isDigit || needless then none
  else
    let value := Number.digitsValue text
    if value < 256 then some value else none

def readShort? (text : List Char) : Option (List Nat) := do
  let bytes ← (Text.pieces '.' text).mapM readByte?
  if bytes.length = 4 then some bytes else none

/-- A group in up to four hexadecimal digits. -/
def readGroup? (text : List Char) : Option Nat :=
  if text.isEmpty || 4 < text.length then none else Document.hexNumber? text

/-- Groups with colons between them. The last two may be written as four bytes. -/
def readGroups? : List (List Char) → Option (List Nat)
  | [] => some []
  | [last] =>
    match readShort? last with
    | some bytes =>
      match bytes with
      | [a, b, c, d] => some [256 * a + b, 256 * c + d]
      | _ => none
    | none => (readGroup? last).map ([·])
  | first :: rest => do
    let group ← readGroup? first
    return group :: (← readGroups? rest)

/-- The groups between two colons that stand for zeros, or all groups. -/
def readSide? (text : List Char) : Option (List Nat) :=
  if text.isEmpty then some [] else readGroups? (Text.pieces ':' text)

/-- Divide a text at the first two colons that follow each other. -/
def cutZeros? (passed : List Char) : List Char → Option (List Char × List Char)
  | [] => none
  | ':' :: ':' :: rest => some (passed.reverse, rest)
  | character :: rest => cutZeros? (character :: passed) rest

/-- Eight groups with colons between them. Once, two colons stand for as many
groups of zeros as are missing. -/
def readLong? (text : List Char) : Option (List Nat) := do
  match cutZeros? [] text with
  | none =>
    let groups ← readSide? text
    if groups.length = 8 then some groups else none
  | some (before, behind) =>
    if before.contains '.' then none
    let first ← readSide? before
    let last ← readSide? behind
    let missing := 8 - (first.length + last.length)
    if missing = 0 then none else some (first ++ List.replicate missing 0 ++ last)

/-- The address that a name of a machine stands for. Long addresses stand between
brackets; the only other name that is known is the one of the machine itself. -/
def read? (name : String) : Option Address :=
  if name == "localhost" then some (.short [127, 0, 0, 1])
  else
    match name.toList with
    | '[' :: rest =>
      match rest.reverse with
      | ']' :: inner =>
        let (address, scope) := (Text.cut? '%' inner.reverse).getD (inner.reverse, ['0'])
        let isNumber := !scope.isEmpty && scope.all Char.isDigit
        if !isNumber || Number.twoTo 32 ≤ Number.digitsValue scope then none
        else (readLong? address).map long
      | _ => none
    | text => (readShort? text).map short

example : read? "127.0.0.1" = some (.short [127, 0, 0, 1]) := by decide +kernel

example : read? "[1::2]" = some (.long [1, 0, 0, 0, 0, 0, 0, 2]) := by decide +kernel

example : read? "::1" = none := by decide +kernel

end Address

end Mustache.Web
