namespace Mustache.Text

/-! Blank characters are those of the Unicode property `White_Space`. The zero
width space and the byte order mark are not among them. -/

/-- A space, a line or paragraph break, or one of the other blank characters. -/
def isBlank (character : Char) : Bool :=
  let point := character.toNat
  (0x09 ≤ point && point ≤ 0x0D) || point == 0x20 || point == 0x85 || point == 0xA0 ||
    point == 0x1680 || (0x2000 ≤ point && point ≤ 0x200A) || point == 0x2028 ||
    point == 0x2029 || point == 0x202F || point == 0x205F || point == 0x3000

/-- Text without the blank characters at its two ends. -/
def trimBlanks (text : List Char) : List Char :=
  ((text.dropWhile isBlank).reverse.dropWhile isBlank).reverse

example : trimBlanks [' ', 'a', ' ', 'b', '\n'] = ['a', ' ', 'b'] := by decide

example : trimBlanks ['\t', ' '] = [] := by decide

end Mustache.Text
