namespace Mustache.Text

/-! The first occurrence of a mark in a text. -/

/-- Look for the mark in the rest of a text whose characters so far, the last
one first, are `passed`. -/
def splitFrom? (mark passed : List Char) : List Char → Option (List Char × List Char)
  | [] => if mark.isEmpty then some (passed.reverse, []) else none
  | character :: rest =>
    if mark.isPrefixOf (character :: rest) then
      some (passed.reverse, (character :: rest).drop mark.length)
    else splitFrom? mark (character :: passed) rest

/-- The text before the first occurrence of the mark and the text behind it. -/
def splitAt? (mark text : List Char) : Option (List Char × List Char) :=
  splitFrom? mark [] text

example :
    splitAt? ['}', '}'] "a\x7db\x7d\x7d\x7dc".toList = some (['a', '}', 'b'], ['}', 'c']) := by
  decide

example : splitAt? ['}', '}'] "a\x7d".toList = none := by decide

theorem splitFrom?_eq (mark passed text : List Char) :
    splitFrom? mark passed text =
      (splitAt? mark text).map fun (before, behind) => (passed.reverse ++ before, behind) := by
  induction text generalizing passed with
  | nil => by_cases empty : mark.isEmpty <;> simp [splitAt?, splitFrom?, empty]
  | cons character rest induction =>
    by_cases starts : mark.isPrefixOf (character :: rest)
    · simp [splitAt?, splitFrom?, starts]
    · simp only [splitAt?, splitFrom?, starts]
      rw [if_neg (by simp), if_neg (by simp), induction, induction [character]]
      cases splitAt? mark rest <;> simp

theorem splitAt?_nil (mark : List Char) :
    splitAt? mark [] = if mark.isEmpty then some ([], []) else none := rfl

/-- The mark stands here, or it is looked for behind the first character. -/
theorem splitAt?_cons (mark rest : List Char) (character : Char) :
    splitAt? mark (character :: rest) =
      if mark.isPrefixOf (character :: rest) then
        some ([], (character :: rest).drop mark.length)
      else
        (splitAt? mark rest).map fun (before, behind) => (character :: before, behind) := by
  rw [splitAt?, splitFrom?]
  split
  · rfl
  · rw [splitFrom?_eq]
    rfl

theorem eq_of_splitAt? {mark text before behind : List Char}
    (found : splitAt? mark text = some (before, behind)) : text = before ++ mark ++ behind := by
  induction text generalizing before with
  | nil =>
    rw [splitAt?_nil] at found
    split at found
    · next empty =>
      rcases Prod.mk.inj (Option.some.inj found) with ⟨rfl, rfl⟩
      simp [List.isEmpty_iff.mp empty]
    · simp at found
  | cons character rest induction =>
    rw [splitAt?_cons] at found
    split at found
    · next starts =>
      rcases Prod.mk.inj (Option.some.inj found) with ⟨rfl, rfl⟩
      rcases List.isPrefixOf_iff_prefix.mp starts with ⟨tail, equal⟩
      rw [← equal]
      simp
    · rcases Option.map_eq_some_iff.mp found with ⟨⟨first, last⟩, split, equal⟩
      rcases Prod.mk.inj equal with ⟨rfl, rfl⟩
      simp [induction split]

end Mustache.Text
