import Mustache.Proofs.Cursor
import Mustache.Scanner

namespace Mustache

/-! What a scanner reads, told by the cursor at its place. The buffer is never seen: whatever
waits in it, a scanner with the same view reads the same. -/

open Text

namespace Text

variable {mark text rest behind : List Char}

/-- A mark that is found later does not stand here. -/
theorem Clear.absent (clear : Clear mark text) (present : text ≠ []) :
    ¬ mark <+: text ++ mark ++ rest := by
  intro starts
  have inside : mark <+: text ++ mark := by
    apply List.prefix_of_prefix_length_le starts
    · exact List.prefix_append _ _
    · simp only [List.length_append]
      omega
  rcases inside with ⟨behind, equal⟩
  have nothing := clear [] behind equal.symm
  have lengths := congrArg List.length equal
  have positive := List.length_pos_iff.mpr present
  simp only [nothing, List.length_append, List.length_nil] at lengths
  omega

theorem Clear.of_suffix (clear : Clear mark text) (inside : behind <:+ text) :
    Clear mark behind := by
  rcases inside with ⟨front, rfl⟩
  intro before later equal
  apply clear (front ++ before) later
  rw [List.append_assoc, equal]
  simp only [List.append_assoc]

end Text

namespace Cursor

variable {cursor earlier after : Cursor} {text gap : List Char}

theorem putBack_of_passes (passes : Passes earlier text cursor) :
    cursor.putBack text = earlier := by
  rcases earlier with ⟨source, unread, offset, bytes⟩
  have view := passes.unread
  have same := passes.source
  have counted := passes.offset
  have measured := passes.byteOffset
  simp only at view same counted measured
  rw [putBack, same, counted, measured, ← view, Nat.add_sub_cancel, Nat.add_sub_cancel]

end Cursor

namespace Scanner

open Cursor (Passes)

variable (Failure : Type) {scanner after : Scanner} {cursor : Cursor} {character : Char}
  {mark text rest : List Char}

@[simp] theorem unread_view (scanner : Scanner) : scanner.view.unread = scanner.stream := rfl

/-! ## Single characters -/

theorem passes_next? (read : scanner.next? = some (character, after)) :
    Passes scanner.view [character] after.view := by
  rcases scanner with ⟨source, rest, buffer, offset, bytes⟩
  cases buffer with
  | cons head tail =>
      cases read
      exact ⟨rfl, rfl, rfl, rfl⟩
  | nil =>
      cases rest with
      | nil => cases read
      | cons head tail =>
          cases read
          exact ⟨rfl, rfl, rfl, rfl⟩

theorem next?_eq_none_iff : scanner.next? = none ↔ scanner.stream = [] := by
  rcases scanner with ⟨source, rest, buffer, offset, bytes⟩
  cases buffer <;> cases rest <;> simp [next?, stream]

theorem exists_next? (view : scanner.stream = character :: rest) :
    ∃ after, scanner.next? = some (character, after) ∧
      Passes scanner.view [character] after.view ∧ after.stream = rest := by
  cases read : scanner.next? with
  | none =>
      rw [next?_eq_none_iff.mp read] at view
      cases view
  | some found =>
      rcases found with ⟨first, after⟩
      have passes := passes_next? read
      rcases List.cons.inj (view.symm.trans passes.unread) with ⟨rfl, same⟩
      exact ⟨after, rfl, passes, same.symm⟩

theorem exists_pass (view : scanner.stream = character :: rest) :
    Passes scanner.view [character] scanner.pass.view ∧ scanner.pass.stream = rest := by
  rcases exists_next? view with ⟨after, read, passes⟩
  rw [pass, read]
  exact passes

theorem exists_peek (scanner : Scanner) :
    ∃ same, scanner.peek = (scanner.stream.head?, same) ∧ same.view = scanner.view := by
  rcases scanner with ⟨source, rest, buffer, offset, bytes⟩
  cases buffer with
  | cons head tail => exact ⟨_, rfl, rfl⟩
  | nil =>
      cases rest with
      | nil => exact ⟨_, rfl, rfl⟩
      | cons head tail => exact ⟨_, rfl, rfl⟩

/-- What has been read can be given back. -/
theorem exists_putBack (passes : Passes cursor text scanner.view) :
    ∃ after, scanner.putBack text = (pure after : Run Failure Scanner) ∧ after.view = cursor := by
  have counted : scanner.offset = cursor.offset + text.length := passes.offset
  have measured : scanner.byteOffset = cursor.byteOffset + byteLength text := passes.byteOffset
  have characters : Condition.Holds (.covers scanner.offset text.length) := by
    simp only [Condition.Holds]
    omega
  have bytes : Condition.Holds (.covers scanner.byteOffset (byteLength text)) := by
    simp only [Condition.Holds]
    omega
  refine ⟨{ scanner with
    buffer := text ++ scanner.buffer
    offset := scanner.offset - text.length
    byteOffset := scanner.byteOffset - byteLength text }, ?_, ?_⟩
  · rw [putBack, Run.rely_of_holds characters, Run.rely_of_holds bytes, pure_bind, pure_bind]
  · rw [← Cursor.putBack_of_passes passes]
    simp [view, stream, Cursor.putBack]

/-! ## Marks -/

/-- The mark is read, or it does not stand there and the scanner goes back to where it began
with the mark. -/
theorem exists_tryReadFrom {read : List Char} (passes : Passes cursor read scanner.view)
    (mark : List Char) :
    ∃ after,
      (tryReadFrom read mark scanner = (pure (true, after) : Run Failure _) ∧
        Passes scanner.view mark after.view) ∨
      (tryReadFrom read mark scanner = (pure (false, after) : Run Failure _) ∧
        ¬ mark <+: scanner.stream ∧ after.view = cursor) := by
  induction mark generalizing read scanner with
  | nil => exact ⟨scanner, .inl ⟨rfl, Passes.refl _⟩⟩
  | cons expected mark induction =>
      cases next : scanner.next? with
      | none =>
          have ended := next?_eq_none_iff.mp next
          rcases exists_putBack Failure passes with ⟨after, back, view⟩
          refine ⟨after, .inr ⟨?_, ?_, view⟩⟩
          · simp only [tryReadFrom, next, back, pure_bind]
          · simp [ended]
      | some found =>
          rcases found with ⟨character, further⟩
          have head := passes_next? next
          have whole := passes.trans head
          by_cases same : character = expected
          · subst same
            rcases induction whole with ⟨after, ⟨read, more⟩ | ⟨failed, absent, view⟩⟩
            · refine ⟨after, .inl ⟨?_, head.trans more⟩⟩
              simp only [tryReadFrom, next, if_true, read]
            · refine ⟨after, .inr ⟨?_, ?_, view⟩⟩
              · simp only [tryReadFrom, next, if_true, failed]
              · rintro ⟨behind, equal⟩
                apply absent
                have shown := head.unread.symm.trans equal.symm
                exact ⟨behind, (List.cons.inj shown).2.symm⟩
          · rcases exists_putBack Failure whole with ⟨after, back, view⟩
            refine ⟨after, .inr ⟨?_, ?_, view⟩⟩
            · simp only [tryReadFrom, next, if_neg same, back, pure_bind]
            · rintro ⟨behind, equal⟩
              apply same
              have shown := head.unread.symm.trans equal.symm
              exact (List.cons.inj shown).1

theorem exists_tryRead (scanner : Scanner) (mark : List Char) :
    ∃ after,
      (scanner.tryRead mark = (pure (true, after) : Run Failure _) ∧
        Passes scanner.view mark after.view) ∨
      (scanner.tryRead mark = (pure (false, after) : Run Failure _) ∧
        ¬ mark <+: scanner.stream ∧ after.view = scanner.view) :=
  exists_tryReadFrom Failure (Passes.refl _) mark

theorem exists_tryRead_of_prefix (starts : mark <+: scanner.stream) :
    ∃ after, scanner.tryRead mark = (pure (true, after) : Run Failure _) ∧
      Passes scanner.view mark after.view := by
  rcases exists_tryRead Failure scanner mark with
    ⟨after, found | ⟨-, absent, -⟩⟩
  · exact ⟨after, found⟩
  · exact absurd starts absent

theorem exists_tryRead_of_not_prefix (absent : ¬ mark <+: scanner.stream) :
    ∃ after, scanner.tryRead mark = (pure (false, after) : Run Failure _) ∧
      after.view = scanner.view := by
  rcases exists_tryRead Failure scanner mark with
    ⟨after, ⟨-, passes⟩ | ⟨failed, -, view⟩⟩
  · exact absurd ⟨after.stream, passes.unread.symm⟩ absent
  · exact ⟨after, failed, view⟩

/-! ## Loops -/

section

variable {Failure State Result : Type} {goesOn : List Char → Prop} {note : State → Char → State}
  {loop : Loop Failure (State × Scanner) Result}

/-- Where a loop goes on, a round reads one character and notes it down. -/
structure Collects (goesOn : List Char → Prop) (note : State → Char → State)
    (loop : Loop Failure (State × Scanner) Result) : Prop where
  place : ∀ (state : State) (scanner : Scanner), loop.place (state, scanner) = scanner.offset
  round : ∀ (state : State) (scanner : Scanner) (character : Char) (rest : List Char),
    scanner.stream = character :: rest → goesOn (character :: rest) →
    ∃ after, loop.round (state, scanner) = pure (.goesOn (note state character, after)) ∧
      Passes scanner.view [character] after.view

/-- A text is noted down if the loop goes on at each of its characters. -/
theorem Collects.exists_run (collects : Collects goesOn note loop)
    (goes : ∀ behind, behind ≠ [] → behind <:+ text → goesOn (behind ++ rest))
    (view : scanner.stream = text ++ rest) (state : State) :
    ∃ after, loop.run (state, scanner) = loop.run (text.foldl note state, after) ∧
      Passes scanner.view text after.view := by
  induction text generalizing scanner state with
  | nil => exact ⟨scanner, rfl, Passes.refl _⟩
  | cons head tail induction =>
      have here := goes (head :: tail) (List.cons_ne_nil _ _) List.suffix_rfl
      rcases collects.round state scanner head (tail ++ rest) view here with
        ⟨next, round, passes⟩
      have forward : loop.place (state, scanner) < loop.place (note state head, next) := by
        have counted : next.offset = scanner.offset + 1 := passes.offset
        rw [collects.place, collects.place]
        omega
      have remaining : next.stream = tail ++ rest :=
        (List.cons.inj (view.symm.trans passes.unread)).2.symm
      have later := fun behind present (inside : behind <:+ tail) =>
        goes behind present (inside.trans (List.suffix_cons head tail))
      rcases induction later remaining (note state head) with ⟨after, same, more⟩
      exact ⟨after, (Loop.run_of_goesOn round forward).trans same, passes.trans more⟩

theorem Collects.exists_run_of_forall {fits : Char → Prop}
    (collects : Collects (fun stream => ∀ character ∈ stream.head?, fits character) note loop)
    (solid : ∀ character ∈ text, fits character) (view : scanner.stream = text ++ rest)
    (state : State) :
    ∃ after, loop.run (state, scanner) = loop.run (text.foldl note state, after) ∧
      Passes scanner.view text after.view := by
  apply collects.exists_run _ view
  intro behind present inside character member
  cases behind with
  | nil => exact absurd rfl present
  | cons head tail =>
      cases member
      exact solid _ (inside.subset List.mem_cons_self)

theorem foldl_snoc (text : List Char) :
    text.foldl (fun read character => read ++ [character]) [] = text := by
  rw [List.foldl_append_eq_append, ← List.flatMap_def, List.flatMap_singleton', List.nil_append]

end

/-! ## Blanks -/

theorem collects_blankLoop : Collects
    (fun stream => ∀ character ∈ stream.head?, isBlank character = true)
    (fun blanks _ => blanks + 1) (blankLoop : Loop Failure _ _) where
  place _ _ := rfl
  round blanks scanner character rest view goes := by
    have blank : isBlank character = true := goes character rfl
    rcases exists_peek scanner with ⟨same, peeked, equal⟩
    rcases exists_pass ((congrArg Cursor.unread equal).trans view) with ⟨passes, -⟩
    rw [equal] at passes
    refine ⟨same.pass, ?_, passes⟩
    simp [blankLoop, peeked, view, blank]

theorem exists_skipBlanks_of_blank {gap : List Char} (blank : Blank gap) (inked : Inked rest)
    (view : scanner.stream = gap ++ rest) :
    ∃ after, scanner.skipBlanks = (pure (gap.length, after) : Run Failure _) ∧
      Passes scanner.view gap after.view := by
  rcases (collects_blankLoop Failure).exists_run_of_forall blank view 0 with
    ⟨middle, reached, passes⟩
  have stream : middle.stream = rest :=
    List.append_cancel_left (passes.unread.symm.trans view)
  rcases exists_peek middle with ⟨after, peeked, equal⟩
  refine ⟨after, ?_, equal ▸ passes⟩
  rw [skipBlanks, reached, List.foldl_add_const, Nat.one_mul, Nat.zero_add]
  apply Loop.run_of_ends
  cases rest with
  | nil => simp [blankLoop, peeked, stream]
  | cons head tail => simp [blankLoop, peeked, stream, inked head rfl]

theorem exists_skipBlanks (scanner : Scanner) :
    ∃ after, scanner.skipBlanks = (pure (scanner.view.blanks, after) : Run Failure _) ∧
      after.view = scanner.view.skipBlanks := by
  rcases Cursor.skipBlanks_eq_iff.mp (rfl : scanner.view.skipBlanks = _) with
    ⟨gap, blank, skipped, inked⟩
  rcases exists_skipBlanks_of_blank Failure blank inked skipped.unread with
    ⟨after, read, passes⟩
  have number : scanner.view.blanks = gap.length := by
    rw [Cursor.blanks, skipped.unread, Cursor.takeWhile_eq_of_stop blank inked]
  rw [number]
  exact ⟨after, read, passes.unique skipped⟩

/-! ## Texts up to a mark -/

theorem collects_markLoop (mark : List Char) : Collects (fun stream => ¬ mark <+: stream)
    (fun text character => text ++ [character]) (markLoop mark : Loop Failure _ _) where
  place _ _ := rfl
  round text scanner character rest view absent := by
    rw [← view] at absent
    rcases exists_tryRead_of_not_prefix Failure absent with ⟨same, failed, equal⟩
    rcases exists_next? ((congrArg Cursor.unread equal).trans view) with
      ⟨after, next, passes, -⟩
    rw [equal] at passes
    refine ⟨after, ?_, passes⟩
    simp [markLoop, failed, next]

theorem exists_readTo_of_clear (clear : Clear mark text)
    (view : scanner.stream = text ++ mark ++ rest) :
    ∃ after, scanner.readTo mark = (pure (text, true, after) : Run Failure _) ∧
      Passes scanner.view (text ++ mark) after.view := by
  rw [List.append_assoc] at view
  have goes : ∀ behind, behind ≠ [] → behind <:+ text → ¬ mark <+: behind ++ (mark ++ rest) := by
    intro behind present inside
    rw [← List.append_assoc]
    exact (clear.of_suffix inside).absent present
  rcases (collects_markLoop Failure mark).exists_run goes view [] with
    ⟨middle, reached, passes⟩
  have stream : mark ++ rest = middle.stream :=
    List.append_cancel_left (view.symm.trans passes.unread)
  rcases exists_tryRead_of_prefix Failure ⟨rest, stream⟩ with ⟨after, found, more⟩
  refine ⟨after, ?_, passes.trans more⟩
  rw [readTo, reached, foldl_snoc]
  apply Loop.run_of_ends
  simp [markLoop, found]

theorem exists_readTo_of_absent (absent : ¬ mark <:+: scanner.stream) :
    ∃ after, scanner.readTo mark = (pure (scanner.stream, false, after) : Run Failure _) ∧
      Passes scanner.view scanner.stream after.view := by
  have goes : ∀ behind, behind ≠ [] → behind <:+ scanner.stream → ¬ mark <+: behind ++ [] := by
    intro behind _ inside starts
    rw [List.append_nil] at starts
    exact absent (starts.isInfix.trans inside.isInfix)
  rcases (collects_markLoop Failure mark).exists_run goes (List.append_nil _).symm [] with
    ⟨middle, reached, passes⟩
  have ended : middle.stream = [] := List.append_right_eq_self.mp passes.unread.symm
  have behind : ¬ mark <+: middle.stream := by
    rw [ended]
    intro starts
    exact absent (starts.isInfix.trans List.nil_infix)
  rcases exists_tryRead_of_not_prefix Failure behind with ⟨after, failed, equal⟩
  have exhausted : after.next? = none :=
    next?_eq_none_iff.mpr ((congrArg Cursor.unread equal).trans ended)
  refine ⟨after, ?_, equal ▸ passes⟩
  rw [readTo, reached, foldl_snoc]
  apply Loop.run_of_ends
  simp [markLoop, failed, exhausted]

theorem exists_readUntil (scanner : Scanner) (mark : List Char) :
    ∃ after,
      scanner.readUntil mark = (pure ((scanner.view.seek mark).1, after) : Run Failure _) ∧
      after.view = (scanner.view.seek mark).2 := by
  cases found : scanner.view.readUntil? mark with
  | some result =>
      rcases result with ⟨text, last⟩
      rcases Cursor.readUntil?_eq_some_iff.mp found with ⟨clear, passes⟩
      rcases exists_readTo_of_clear Failure clear passes.unread with
        ⟨after, read, more⟩
      refine ⟨after, ?_, ?_⟩
      · simp [readUntil, read, Cursor.seek, found]
      · simp only [Cursor.seek, found]
        exact more.unique passes
  | none =>
      have absent := Cursor.readUntil?_eq_none_iff.mp found
      rcases exists_readTo_of_absent Failure absent with ⟨after, read, more⟩
      refine ⟨after, ?_, ?_⟩
      · simp [readUntil, read, Cursor.seek, found]
      · simp only [Cursor.seek, found, Cursor.finish]
        exact more.unique (Cursor.passes_of_unread (List.append_nil _).symm)

end Scanner

end Mustache
