import Mustache.Text.Visible

namespace Mustache.Text

/-! The quoted form of a text, as messages show names, paths and values. -/

/-- Digits of a number in base sixteen, in lower case and without padding. -/
def hexDigits (number : Nat) : List Char :=
  Nat.toDigits 16 number

/-- A quote, a backslash and the common control characters have short escapes;
any other character that is not visible is written by its code point. -/
def escapeCharacter (character : Char) : List Char :=
  match character with
  | '\x00' => ['\\', '0']
  | '\t' => ['\\', 't']
  | '\r' => ['\\', 'r']
  | '\n' => ['\\', 'n']
  | '"' => ['\\', '"']
  | '\\' => ['\\', '\\']
  | other =>
    if isVisible other then [other]
    else ['\\', 'u', '{'] ++ hexDigits other.toNat ++ ['}']

def quoted (text : String) : String :=
  String.ofList ('"' :: (text.toList.flatMap escapeCharacter ++ ['"']))

example : (quoted "it's a \"b\"\n").toList = "\"it's a \\\"b\\\"\\n\"".toList := by decide +kernel

example : (quoted "\x01").toList = "\"\\u\x7b1\x7d\"".toList := by decide +kernel

end Mustache.Text
