import Mustache.Text.Occurrence

namespace Mustache.Text

/-! Where a mark stands first, told by its occurrences alone. `splitAt?` finds
exactly the places told here. -/

variable {mark text before behind : List Char}

/-- In the text with the mark behind it, the mark stands nowhere but at the end. -/
def Clear (mark text : List Char) : Prop :=
  ∀ before behind, text ++ mark = before ++ mark ++ behind → behind = []

theorem clear_nil (mark : List Char) : Clear mark [] := by
  intro before behind equal
  have lengths := congrArg List.length equal
  simp only [List.nil_append, List.length_append] at lengths
  apply List.length_eq_zero_iff.mp
  omega

/-- A mark does not start inside a text that lacks its first character. -/
theorem length_le_of_notMem {first : Char} {rest other : List Char} (absent : first ∉ text)
    (occurs : text ++ other = before ++ first :: rest) : text.length ≤ before.length := by
  rcases List.append_eq_append_iff.mp occurs with ⟨more, rfl, -⟩ | ⟨more, rfl, starts⟩
  · rw [List.length_append]
    exact Nat.le_add_right _ _
  · cases more with
    | nil => simp
    | cons head tail =>
        rcases List.cons.inj starts with ⟨rfl, -⟩
        exact absurd (List.mem_append_right _ List.mem_cons_self) absent

theorem clear_of_notMem {first : Char} {rest : List Char} (absent : first ∉ text) :
    Clear (first :: rest) text := by
  intro before behind equal
  rw [List.append_assoc, List.cons_append] at equal
  have later := length_le_of_notMem absent equal
  have lengths := congrArg List.length equal
  simp only [List.length_append, List.length_cons] at lengths
  apply List.length_eq_zero_iff.mp
  omega

theorem Clear.not_within (clear : Clear mark text) (nonempty : mark ≠ []) : ¬ mark <:+: text := by
  rintro ⟨before, behind, equal⟩
  have nothing := clear before (behind ++ mark) (by rw [← equal]; simp)
  exact nonempty (List.append_eq_nil_iff.mp nothing).2

/-- No occurrence of the mark stands before the one that is found. -/
theorem length_le_of_splitAt? (found : splitAt? mark text = some (before, behind))
    {other rest : List Char} (occurs : text = other ++ mark ++ rest) :
    before.length ≤ other.length := by
  induction text generalizing before other with
  | nil =>
      rw [splitAt?_nil] at found
      split at found
      · rcases Prod.mk.inj (Option.some.inj found) with ⟨rfl, rfl⟩
        exact Nat.zero_le _
      · cases found
  | cons character tail induction =>
      rw [splitAt?_cons] at found
      split at found
      · rcases Prod.mk.inj (Option.some.inj found) with ⟨rfl, rfl⟩
        exact Nat.zero_le _
      · next starts =>
        rcases Option.map_eq_some_iff.mp found with ⟨⟨first, last⟩, inside, equal⟩
        rcases Prod.mk.inj equal with ⟨rfl, rfl⟩
        cases other with
        | nil =>
            refine absurd (List.isPrefixOf_iff_prefix.mpr ⟨rest, ?_⟩) starts
            rw [occurs, List.nil_append]
        | cons head others =>
            rw [List.cons_append, List.cons_append] at occurs
            have shorter := induction inside (List.cons.inj occurs).2
            simpa using shorter

theorem splitAt?_eq_none_iff : splitAt? mark text = none ↔ ¬ mark <:+: text := by
  constructor
  · intro none
    rintro ⟨before, behind, equal⟩
    -- Only the first place is looked at, so the occurrence is carried to the front.
    induction before generalizing text with
    | nil =>
        have starts : mark.isPrefixOf text = true :=
          List.isPrefixOf_iff_prefix.mpr ⟨behind, by rw [← equal, List.nil_append]⟩
        cases text with
        | nil =>
            rw [splitAt?_nil, List.eq_nil_of_prefix_nil (List.isPrefixOf_iff_prefix.mp starts)]
              at none
            cases none
        | cons character tail =>
            rw [splitAt?_cons, if_pos starts] at none
            cases none
    | cons head others induction =>
        subst equal
        rw [List.cons_append, List.cons_append, splitAt?_cons] at none
        split at none
        · cases none
        · exact induction (Option.map_eq_none_iff.mp none) rfl
  · intro absent
    cases found : splitAt? mark text with
    | none => rfl
    | some places =>
        exact absurd ⟨places.1, places.2, (eq_of_splitAt? found).symm⟩ absent

/-- What is found is the one place whose text before it is clear of the mark. -/
theorem splitAt?_eq_some_iff :
    splitAt? mark text = some (before, behind) ↔
      Clear mark before ∧ text = before ++ mark ++ behind := by
  constructor
  · intro found
    have whole := eq_of_splitAt? found
    refine ⟨?_, whole⟩
    intro other rest equal
    have occurs : text = other ++ mark ++ (rest ++ behind) := by
      rw [whole, equal, List.append_assoc _ rest]
    have first := length_le_of_splitAt? found occurs
    have lengths := congrArg List.length equal
    simp only [List.length_append] at lengths
    apply List.length_eq_zero_iff.mp
    omega
  · rintro ⟨clear, whole⟩
    cases found : splitAt? mark text with
    | none =>
        have absent := splitAt?_eq_none_iff.mp found
        exact absurd ⟨before, behind, whole.symm⟩ absent
    | some places =>
        rcases places with ⟨first, last⟩
        have equal := (eq_of_splitAt? found).symm.trans whole
        have bound := length_le_of_splitAt? found whole
        -- The place found is no later than the clear one, and no earlier one is possible.
        have starts : first ++ mark <+: text := ⟨last, (eq_of_splitAt? found).symm⟩
        have inside : first ++ mark <+: before ++ mark := by
          apply List.prefix_of_prefix_length_le starts
          · exact ⟨behind, whole.symm⟩
          · simpa using bound
        rcases inside with ⟨rest, extended⟩
        have nothing := clear first rest extended.symm
        subst nothing
        rw [List.append_nil] at extended
        have same := List.append_cancel_right extended
        subst same
        rw [List.append_cancel_left equal]

theorem clear_iff : Clear mark text ↔ splitAt? mark (text ++ mark) = some (text, []) := by
  rw [splitAt?_eq_some_iff, List.append_nil, and_iff_left rfl]

instance : Decidable (Clear mark text) :=
  decidable_of_iff _ clear_iff.symm

example : Clear "|".toList "a\x7d".toList := by decide

/-- The mark would be found one character too early. -/
example : ¬ Clear ['{', '{'] ['a', '{'] := by decide

/-! ## A brace before the mark -/

/-- In the text with a brace and the mark behind it, the mark stands nowhere
before that brace. -/
def ClearOfBrace (mark text : List Char) : Prop :=
  ∀ before behind, text ++ '}' :: mark = before ++ mark ++ behind →
    text.length ≤ before.length

theorem clearOfBrace_iff :
    ClearOfBrace mark text ↔
      ∀ found ∈ splitAt? mark (text ++ '}' :: mark), text.length ≤ found.1.length := by
  constructor
  · intro clear found member
    exact clear _ _ (eq_of_splitAt? member)
  · intro first before behind equal
    cases found : splitAt? mark (text ++ '}' :: mark) with
    | none => exact absurd ⟨before, behind, equal.symm⟩ (splitAt?_eq_none_iff.mp found)
    | some places => exact Nat.le_trans (first places found) (length_le_of_splitAt? found equal)

theorem clearOfBrace_of_notMem {first : Char} {rest : List Char} (absent : first ∉ text) :
    ClearOfBrace (first :: rest) text := by
  intro before behind equal
  rw [List.append_assoc, List.cons_append] at equal
  exact length_le_of_notMem absent equal

instance : Decidable (ClearOfBrace mark text) :=
  decidable_of_iff _ clearOfBrace_iff.symm

/-- The brace may be the first one of the closing mark. -/
example : ClearOfBrace ['}', '}'] ['a'] := by decide

theorem ClearOfBrace.clear (clear : ClearOfBrace mark text) : Clear ('}' :: mark) text := by
  intro before behind equal
  have later := clear (before ++ ['}']) behind (by rw [equal]; simp)
  have lengths := congrArg List.length equal
  simp only [List.length_append, List.length_cons, List.length_nil] at later lengths
  rcases behind with _ | ⟨last, rest⟩
  · rfl
  -- One character remains, so the mark overlaps itself and consists of braces only.
  · exfalso
    have single : rest = [] := by
      apply List.length_eq_zero_iff.mp
      simp only [List.length_cons] at lengths
      omega
    subst single
    have shifted : text = before ++ ['}'] := by
      have divided : text ++ '}' :: mark = (before ++ ['}']) ++ (mark ++ [last]) := by
        rw [equal]
        simp
      apply List.append_inj_left divided
      simp only [List.length_append, List.length_cons, List.length_nil] at lengths ⊢
      omega
    have overlap : '}' :: mark = mark ++ [last] := by
      rw [shifted, List.append_assoc, List.append_assoc] at equal
      simpa using List.append_cancel_left equal
    have moved : text ++ '}' :: mark = before ++ mark ++ [last, last] := by
      rw [shifted, List.append_assoc, List.append_assoc, List.singleton_append, overlap]
      rw [← List.cons_append, overlap]
      simp
    have earlier := clear before [last, last] moved
    rw [shifted, List.length_append, List.length_singleton] at earlier
    omega

/-! ## A mark of two characters

Such a mark is not found across the seam of two texts unless the first text ends in the
middle of it. -/

section Seam

variable {first second : Char} {text other : List Char}

/-- In a text without the mark that does not end with its first character, no occurrence
of the mark starts. -/
theorem exists_behind_of_getLast?_ne {before behind : List Char}
    (absent : ¬ [first, second] <:+: text) (last : text.getLast? ≠ some first)
    (occurs : text ++ other = before ++ first :: second :: behind) :
    ∃ more, before = text ++ more ∧ other = more ++ first :: second :: behind := by
  rcases List.append_eq_append_iff.mp occurs with ⟨more, same, rest⟩ | ⟨more, rfl, starts⟩
  · exact ⟨more, same, rest⟩
  · rcases more with _ | ⟨head, _ | ⟨next, rest⟩⟩
    · exact ⟨[], by simp, starts.symm⟩
    · cases starts
      simp at last
    · cases starts
      exact absurd ⟨before, rest, by simp⟩ absent

theorem Clear.append (absent : ¬ [first, second] <:+: text) (last : text.getLast? ≠ some first)
    (clear : Clear [first, second] other) : Clear [first, second] (text ++ other) := by
  intro before behind equal
  rw [List.append_assoc, List.append_assoc] at equal
  rcases exists_behind_of_getLast?_ne absent last equal with ⟨more, -, rest⟩
  refine clear more behind ?_
  rw [rest, List.append_assoc]
  rfl

theorem not_within_append (absent : ¬ [first, second] <:+: text)
    (last : text.getLast? ≠ some first) (rest : ¬ [first, second] <:+: other) :
    ¬ [first, second] <:+: text ++ other := by
  rintro ⟨before, behind, equal⟩
  rw [List.append_assoc] at equal
  rcases exists_behind_of_getLast?_ne absent last equal.symm with ⟨more, -, inside⟩
  refine rest ⟨more, behind, ?_⟩
  rw [inside, List.append_assoc]
  rfl

theorem getLast?_ne_of_append {text more : List Char} {character : Char}
    (last : (text ++ more).getLast? ≠ some character) : more.getLast? ≠ some character := by
  intro same
  rw [List.getLast?_append, same] at last
  exact last rfl

end Seam

end Mustache.Text
