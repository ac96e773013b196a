import Mustache.Text.Pieces
import Mustache.Text.Utf8
import Mustache.Value

namespace Mustache.Web

/-! Query strings of web addresses. -/

def hexByte? (byte : UInt8) : Option Nat :=
  let value := byte.toNat
  if 0x30 ≤ value && value ≤ 0x39 then some (value - 0x30)
  else if 0x41 ≤ value && value ≤ 0x46 then some (value - 0x41 + 10)
  else if 0x61 ≤ value && value ≤ 0x66 then some (value - 0x61 + 10)
  else none

/-- A percent sign and two hexadecimal digits stand for a byte; any other byte
stands for itself. -/
def decodePercent : List UInt8 → List UInt8
  | [] => []
  | 0x25 :: high :: low :: rest =>
    match hexByte? high, hexByte? low with
    | some first, some second => UInt8.ofNat (16 * first + second) :: decodePercent rest
    | _, _ => 0x25 :: decodePercent (high :: low :: rest)
  | byte :: rest => byte :: decodePercent rest

/-- In a query a plus sign stands for a space. -/
def plusToSpace (text : List Char) : List Char :=
  text.map fun character => if character = '+' then ' ' else character

def decodeComponent (text : List Char) : String :=
  String.ofList (Text.decodeUtf8 (decodePercent (Text.encodeUtf8 (plusToSpace text))))

/-- The name and the value of a parameter. Without an equals sign there is no
value; further equals signs belong to the value. -/
def parameterOfPiece (piece : List Char) : String × String :=
  let (name, value) := (Text.cut? '=' piece).getD (piece, [])
  (decodeComponent name, decodeComponent value)

/-- The parameters of a query, divided at ampersands. The last value of a name
counts, at the place of the first. -/
def parseQuery (query : List Char) : Entries String :=
  Entries.ofPairs (((Text.pieces '&' query).filter (!·.isEmpty)).map parameterOfPiece)

example : parseQuery "a=1&flag&x=%3Cb%3E&a=2+3".toList =
    [("a", "2 3"), ("flag", ""), ("x", "<b>")] := by decide +kernel

end Mustache.Web
