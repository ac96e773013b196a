namespace Mustache

/-! The two marks between which tags are written. Neither is empty, so that
reading a tag always moves on. -/

structure Markers where
  opening : List Char
  closing : List Char
  opening_ne_nil : opening ≠ []
  closing_ne_nil : closing ≠ []
deriving DecidableEq

namespace Markers

def of? (opening closing : List Char) : Option Markers :=
  if nonempty : opening ≠ [] ∧ closing ≠ [] then
    some ⟨opening, closing, nonempty.1, nonempty.2⟩
  else none

/-- Two opening and two closing braces, in force at the start of a template. -/
def standard : Markers :=
  ⟨['{', '{'], ['}', '}'], by decide, by decide⟩

/-- The marks with a space between them. -/
def toChars (markers : Markers) : List Char :=
  markers.opening ++ ' ' :: markers.closing

def around (markers : Markers) (body : List Char) : List Char :=
  markers.opening ++ body ++ markers.closing

instance : Inhabited Markers := ⟨standard⟩

example : (of? ['<', '%'] ['%', '>']).map toChars = some "<% %>".toList := by decide

example : of? [] ['}'] = none := by decide

end Markers

end Mustache
