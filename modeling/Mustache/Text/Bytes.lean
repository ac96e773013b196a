namespace Mustache.Text

/-! Positions in text counted in bytes of its UTF-8 form. -/

/-- Bytes that the characters take together. -/
def byteLength : List Char → Nat
  | [] => 0
  | character :: rest => character.utf8Size + byteLength rest

/-- The text from a byte position on, if the position lies between two
characters or at an end. -/
def dropBytes? : List Char → Nat → Option (List Char)
  | text, 0 => some text
  | [], _ + 1 => none
  | character :: rest, count + 1 =>
    if character.utf8Size ≤ count + 1 then dropBytes? rest (count + 1 - character.utf8Size)
    else none

/-- The text before a byte position, if the position lies between two
characters or at an end. -/
def takeBytes? : List Char → Nat → Option (List Char)
  | _, 0 => some []
  | [], _ + 1 => none
  | character :: rest, count + 1 =>
    if character.utf8Size ≤ count + 1 then
      (takeBytes? rest (count + 1 - character.utf8Size)).map (character :: ·)
    else none

def slice? (text : List Char) (first last : Nat) : Option (List Char) :=
  if first ≤ last then (dropBytes? text first).bind (takeBytes? · (last - first)) else none

example : slice? ['é', 'a', '😀'] 2 3 = some ['a'] := by decide

/-- A position inside a character is refused. -/
example : slice? ['é', 'a'] 1 3 = none := by decide

@[simp] theorem byteLength_nil : byteLength [] = 0 := rfl

@[simp] theorem byteLength_cons (character : Char) (rest : List Char) :
    byteLength (character :: rest) = character.utf8Size + byteLength rest := rfl

@[simp] theorem byteLength_append (first second : List Char) :
    byteLength (first ++ second) = byteLength first + byteLength second := by
  induction first with
  | nil => simp
  | cons character rest induction => simp [induction, Nat.add_assoc]

theorem dropBytes?_append (first second : List Char) :
    dropBytes? (first ++ second) (byteLength first) = some second := by
  induction first with
  | nil => cases second <;> rfl
  | cons character rest induction =>
    have positive := character.utf8Size_pos
    have counted : ∃ count, character.utf8Size + byteLength rest = count + 1 :=
      ⟨character.utf8Size + byteLength rest - 1, by omega⟩
    rcases counted with ⟨count, equal⟩
    simp only [List.cons_append, byteLength_cons, equal, dropBytes?]
    rw [if_pos (by omega)]
    rw [← equal, Nat.add_sub_cancel_left]
    exact induction

theorem takeBytes?_append (first second : List Char) :
    takeBytes? (first ++ second) (byteLength first) = some first := by
  induction first with
  | nil => cases second <;> rfl
  | cons character rest induction =>
    have positive := character.utf8Size_pos
    have counted : ∃ count, character.utf8Size + byteLength rest = count + 1 :=
      ⟨character.utf8Size + byteLength rest - 1, by omega⟩
    rcases counted with ⟨count, equal⟩
    simp only [List.cons_append, byteLength_cons, equal, takeBytes?]
    rw [if_pos (by omega)]
    rw [← equal, Nat.add_sub_cancel_left, induction]
    rfl

/-- Between the byte lengths of two leading parts stands what divides them. -/
theorem slice?_append (before middle behind : List Char) :
    slice? (before ++ middle ++ behind) (byteLength before) (byteLength (before ++ middle)) =
      some middle := by
  have bound : byteLength before ≤ byteLength (before ++ middle) := by simp
  rw [slice?, if_pos bound, List.append_assoc, dropBytes?_append, byteLength_append,
    Nat.add_sub_cancel_left]
  exact takeBytes?_append middle behind

end Mustache.Text
