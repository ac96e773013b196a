namespace Mustache.Text

/-! Text divided at a separator character. -/

/-- All pieces between the separators. There is always one more piece than
there are separators, so the empty text has one empty piece. -/
def pieces (separator : Char) : List Char → List (List Char)
  | [] => [[]]
  | character :: rest =>
    if character = separator then [] :: pieces separator rest
    else
      match pieces separator rest with
      | [] => [[character]]
      | first :: others => (character :: first) :: others

/-- The text before the first separator and the text after it. -/
def cut? (separator : Char) : List Char → Option (List Char × List Char)
  | [] => none
  | character :: rest =>
    if character = separator then some ([], rest)
    else (cut? separator rest).map fun (before, behind) => (character :: before, behind)

/-- The pieces written one after the other with a separator between them. -/
def joinPieces (separator : Char) : List (List Char) → List Char
  | [] => []
  | [last] => last
  | first :: others => first ++ separator :: joinPieces separator others

example : pieces ',' "a,,b".toList = [['a'], [], ['b']] := by decide

example : cut? ':' "a:b:c".toList = some (['a'], ['b', ':', 'c']) := by decide

theorem pieces_ne_nil (separator : Char) (text : List Char) : pieces separator text ≠ [] := by
  cases text with
  | nil => simp [pieces]
  | cons character rest =>
    simp only [pieces]
    split
    · simp
    · split <;> simp

theorem joinPieces_pieces (separator : Char) (text : List Char) :
    joinPieces separator (pieces separator text) = text := by
  induction text with
  | nil => rfl
  | cons character rest induction =>
    simp only [pieces]
    split
    · next equal =>
      subst equal
      cases divided : pieces character rest with
      | nil => exact absurd divided (pieces_ne_nil _ _)
      | cons first others =>
        rw [divided] at induction
        simp [joinPieces, induction]
    · split
      · next none => exact absurd none (pieces_ne_nil _ _)
      · next first others divided =>
        rw [divided] at induction
        cases others with
        | nil => simpa [joinPieces] using induction
        | cons second others => simpa [joinPieces] using induction

def stringPieces (separator : Char) (text : String) : List String :=
  (pieces separator text.toList).map String.ofList

def cutString? (separator : Char) (text : String) : Option (String × String) :=
  (cut? separator text.toList).map fun (before, behind) =>
    (String.ofList before, String.ofList behind)

end Mustache.Text
