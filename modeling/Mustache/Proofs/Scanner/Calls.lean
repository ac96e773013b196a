import Mustache.Proofs.Scanner

namespace Mustache

/-! Calls of a scanner one after the other. Whatever it was asked before, a scanner answers as
a plain cursor does that was asked the same. So it stands at a place of its source, and what it
does next is told by the text behind that place. -/

open Text

namespace Scanner

/-- What a scanner can be asked to do. -/
inductive Call where
  | next
  | peek
  | atEnd
  | putBack (characters : List Char)
  | tryRead (mark : List Char)
  | skipBlanks
  | readUntil (mark : List Char)
deriving DecidableEq, Repr

inductive Answer where
  | character (found : Option Char)
  | verdict (holds : Bool)
  | number (count : Nat)
  | text (found : Option (List Char))
  | done
deriving DecidableEq, Repr

def answer {Failure : Type} (scanner : Scanner) : Call → Run Failure (Answer × Scanner)
  | .next =>
    match scanner.next? with
    | some (character, after) => return (.character (some character), after)
    | none => return (.character none, scanner)
  | .peek => return (.character scanner.peek.1, scanner.peek.2)
  | .atEnd => return (.verdict scanner.atEnd.1, scanner.atEnd.2)
  | .putBack characters => return (.done, ← scanner.putBack characters)
  | .tryRead mark => do
    let (found, after) ← scanner.tryRead mark
    return (.verdict found, after)
  | .skipBlanks => do
    let (blanks, after) ← scanner.skipBlanks
    return (.number blanks, after)
  | .readUntil mark => do
    let (text, after) ← scanner.readUntil mark
    return (.text text, after)

def answers {Failure : Type} (scanner : Scanner) :
    List Call → Run Failure (List Answer × Scanner)
  | [] => return ([], scanner)
  | call :: calls => do
    let (answer, scanner) ← scanner.answer call
    let (answers, scanner) ← scanner.answers calls
    return (answer :: answers, scanner)

end Scanner

namespace Cursor

open Scanner (Call Answer)

def answer (cursor : Cursor) : Call → Answer × Cursor
  | .next =>
    match cursor.next? with
    | some (character, after) => (.character (some character), after)
    | none => (.character none, cursor)
  | .peek => (.character cursor.peek?, cursor)
  | .atEnd => (.verdict cursor.atEnd, cursor)
  | .putBack characters => (.done, cursor.putBack characters)
  | .tryRead mark =>
    match cursor.tryRead? mark with
    | some after => (.verdict true, after)
    | none => (.verdict false, cursor)
  | .skipBlanks => (.number cursor.blanks, cursor.skipBlanks)
  | .readUntil mark => (.text (cursor.seek mark).1, (cursor.seek mark).2)

def answers (cursor : Cursor) : List Call → List Answer × Cursor
  | [] => ([], cursor)
  | call :: calls =>
    let (answer, cursor) := cursor.answer call
    let (answers, cursor) := cursor.answers calls
    (answer :: answers, cursor)

/-- Only what was read last is given back. -/
def Permits (cursor : Cursor) : Call → Prop
  | .putBack characters => characters <:+ cursor.source.take cursor.offset
  | _ => True

instance (cursor : Cursor) : (call : Call) → Decidable (cursor.Permits call)
  | .putBack characters =>
    inferInstanceAs (Decidable (characters <:+ cursor.source.take cursor.offset))
  | .next | .peek | .atEnd | .tryRead _ | .skipBlanks | .readUntil _ => isTrue trivial

/-- Each call is permitted where the calls before it have led to. -/
def PermitsAll (cursor : Cursor) : List Call → Prop
  | [] => True
  | call :: calls => cursor.Permits call ∧ (cursor.answer call).2.PermitsAll calls

instance decidePermitsAll (cursor : Cursor) :
    (calls : List Call) → Decidable (cursor.PermitsAll calls)
  | [] => isTrue trivial
  | call :: calls =>
    have := decidePermitsAll (cursor.answer call).2 calls
    inferInstanceAs (Decidable (cursor.Permits call ∧ (cursor.answer call).2.PermitsAll calls))

theorem exists_passes_seek (cursor : Cursor) (mark : List Char) :
    ∃ text, Passes cursor text (cursor.seek mark).2 := by
  cases found : cursor.readUntil? mark with
  | some result =>
      rcases result with ⟨text, after⟩
      simp only [seek, found]
      exact ⟨text ++ mark, passes_readUntil? found⟩
  | none =>
      simp only [seek, found]
      exact ⟨_, passes_advance _ _⟩

/-! ## Places in a source -/

/-- The cursor stands behind a part of the source. -/
def StandsIn (source : List Char) (cursor : Cursor) : Prop :=
  ∃ passed, Passes (start source) passed cursor

theorem standsIn_start (source : List Char) : StandsIn source (start source) :=
  ⟨[], Passes.refl _⟩

namespace StandsIn

variable {source text : List Char} {cursor after : Cursor}

theorem further (stands : StandsIn source cursor) (passes : Passes cursor text after) :
    StandsIn source after := by
  rcases stands with ⟨passed, reached⟩
  exact ⟨passed ++ text, reached.trans passes⟩

theorem take_eq {passed : List Char} (reached : Passes (Cursor.start source) passed cursor) :
    source.take cursor.offset = passed := by
  have whole : source = passed ++ cursor.unread := reached.unread
  have counted : cursor.offset = passed.length := by
    rw [reached.offset]
    exact Nat.zero_add _
  rw [counted, whole, List.take_left]

/-- What is permitted to be given back has been passed. -/
theorem exists_before (stands : StandsIn source cursor)
    (permitted : text <:+ cursor.source.take cursor.offset) :
    ∃ earlier, Passes earlier text cursor ∧ StandsIn source earlier := by
  rcases stands with ⟨passed, reached⟩
  rw [reached.source] at permitted
  change text <:+ source.take cursor.offset at permitted
  rw [take_eq reached] at permitted
  rcases permitted with ⟨front, rfl⟩
  rcases reached.divide with ⟨earlier, before, passes⟩
  exact ⟨earlier, passes, front, before⟩

end StandsIn

end Cursor

namespace Scanner

open Cursor (Passes StandsIn)

variable (Failure : Type) {source : List Char} {scanner : Scanner}

/-- One call: the answer is that of the cursor, and the scanner stands where the cursor then
stands. -/
theorem exists_answer (stands : StandsIn source scanner.view) (call : Call)
    (permitted : scanner.view.Permits call) :
    ∃ after, scanner.answer call =
        (pure ((scanner.view.answer call).1, after) : Run Failure _) ∧
      after.view = (scanner.view.answer call).2 ∧ StandsIn source after.view := by
  cases call with
  | next =>
      cases read : scanner.next? with
      | some found =>
          rcases found with ⟨character, after⟩
          have passes := passes_next? read
          have told := Cursor.next?_eq_some_iff.mpr passes
          refine ⟨after, ?_, ?_, stands.further passes⟩
          · simp only [answer, read, Cursor.answer, told]
          · simp only [Cursor.answer, told]
      | none =>
          have ended : scanner.view.unread = [] := next?_eq_none_iff.mp read
          have told : scanner.view.next? = none := by
            rw [Cursor.next?, Cursor.peek?, ended]
            rfl
          refine ⟨scanner, ?_, ?_, stands⟩
          · simp only [answer, read, Cursor.answer, told]
          · simp only [Cursor.answer, told]
  | peek =>
      rcases exists_peek scanner with ⟨same, peeked, equal⟩
      refine ⟨same, ?_, equal, equal ▸ stands⟩
      rw [answer, peeked]
      rfl
  | atEnd =>
      rcases exists_peek scanner with ⟨same, peeked, equal⟩
      refine ⟨same, ?_, equal, equal ▸ stands⟩
      have verdict : scanner.view.atEnd = scanner.stream.head?.isNone := by
        rw [Cursor.atEnd, unread_view]
        cases scanner.stream <;> rfl
      simp only [answer, atEnd, peeked, Cursor.answer, verdict]
  | putBack characters =>
      rcases stands.exists_before permitted with ⟨earlier, passes, before⟩
      rcases exists_putBack Failure passes with ⟨after, back, view⟩
      refine ⟨after, ?_, ?_, view ▸ before⟩
      · simp only [answer, back, pure_bind, Cursor.answer]
      · rw [view]
        exact (Cursor.putBack_of_passes passes).symm
  | tryRead mark =>
      rcases exists_tryRead Failure scanner mark with
        ⟨after, ⟨read, passes⟩ | ⟨failed, absent, view⟩⟩
      · have told := Cursor.tryRead?_eq_some_iff.mpr passes
        refine ⟨after, ?_, ?_, stands.further passes⟩
        · simp only [answer, read, pure_bind, Cursor.answer, told]
        · simp only [Cursor.answer, told]
      · have told : scanner.view.tryRead? mark = none := Cursor.tryRead?_eq_none_iff.mpr absent
        refine ⟨after, ?_, ?_, view ▸ stands⟩
        · simp only [answer, failed, pure_bind, Cursor.answer, told]
        · simp only [Cursor.answer, told, view]
  | skipBlanks =>
      rcases exists_skipBlanks Failure scanner with ⟨after, read, view⟩
      refine ⟨after, ?_, view, ?_⟩
      · simp only [answer, read, pure_bind, Cursor.answer]
      · rw [view]
        exact stands.further scanner.view.passes_skipBlanks
  | readUntil mark =>
      rcases exists_readUntil Failure scanner mark with ⟨after, read, view⟩
      refine ⟨after, ?_, view, ?_⟩
      · simp only [answer, read, pure_bind, Cursor.answer]
      · rw [view]
        rcases Cursor.exists_passes_seek scanner.view mark with ⟨text, passes⟩
        exact stands.further passes

theorem exists_answers (stands : StandsIn source scanner.view) (calls : List Call)
    (permitted : scanner.view.PermitsAll calls) :
    ∃ after, scanner.answers calls =
        (pure ((scanner.view.answers calls).1, after) : Run Failure _) ∧
      after.view = (scanner.view.answers calls).2 ∧ StandsIn source after.view := by
  induction calls generalizing scanner with
  | nil => exact ⟨scanner, rfl, rfl, stands⟩
  | cons call calls induction =>
      rcases exists_answer Failure stands call permitted.1 with
        ⟨next, first, view, stands⟩
      have later := permitted.2
      rw [← view] at later
      rcases induction stands later with ⟨after, rest, same, stands⟩
      refine ⟨after, ?_, ?_, stands⟩
      · simp only [answers, first, pure_bind, rest, Cursor.answers, view]
      · simp only [same, Cursor.answers, view]

/-! ## What comes next -/

/-- What a scanner does next is told by the text that is still to be read. -/
structure Exact (Failure : Type) (scanner : Scanner) : Prop where
  tryRead_of_prefix : ∀ mark : List Char, mark <+: scanner.stream →
    ∃ after, scanner.tryRead mark = (pure (true, after) : Run Failure _) ∧
      Passes scanner.view mark after.view
  tryRead_of_not_prefix : ∀ mark : List Char, ¬ mark <+: scanner.stream →
    ∃ after, scanner.tryRead mark = (pure (false, after) : Run Failure _) ∧
      after.view = scanner.view
  skipBlanks : ∃ (gap : List Char) (after : Scanner),
    scanner.skipBlanks = (pure (gap.length, after) : Run Failure _) ∧
      Passes scanner.view gap after.view ∧ Blank gap ∧ Inked after.stream
  readUntil_of_first : ∀ mark text rest : List Char, scanner.stream = text ++ mark ++ rest →
    (∀ before behind, scanner.stream = before ++ mark ++ behind →
      text.length ≤ before.length) →
    ∃ after, scanner.readUntil mark = (pure (some text, after) : Run Failure _) ∧
      Passes scanner.view (text ++ mark) after.view
  readUntil_of_absent : ∀ mark : List Char, ¬ mark <:+: scanner.stream →
    ∃ after, scanner.readUntil mark = (pure (none, after) : Run Failure _) ∧
      Passes scanner.view scanner.stream after.view ∧ after.stream = []

/-- The leftmost place of a mark is clear of it. -/
theorem clear_of_first {stream mark text rest : List Char}
    (view : stream = text ++ mark ++ rest)
    (first : ∀ before behind, stream = before ++ mark ++ behind → text.length ≤ before.length) :
    Clear mark text := by
  intro before behind equal
  have earliest := first before (behind ++ rest) (by rw [view, equal, List.append_assoc])
  have lengths := congrArg List.length equal
  simp only [List.length_append] at lengths
  apply List.length_eq_zero_iff.mp
  omega

theorem exact (scanner : Scanner) : scanner.Exact Failure where
  tryRead_of_prefix _ := exists_tryRead_of_prefix Failure
  tryRead_of_not_prefix _ := exists_tryRead_of_not_prefix Failure
  skipBlanks := by
    rcases Cursor.skipBlanks_eq_iff.mp (rfl : scanner.view.skipBlanks = _) with
      ⟨gap, blank, skipped, inked⟩
    rcases exists_skipBlanks_of_blank Failure blank inked skipped.unread with
      ⟨after, read, passes⟩
    refine ⟨gap, after, read, passes, blank, ?_⟩
    have same : after.stream = scanner.view.skipBlanks.unread :=
      congrArg Cursor.unread (passes.unique skipped)
    rwa [same]
  readUntil_of_first mark text rest view first := by
    rcases exists_readTo_of_clear Failure (clear_of_first view first) view with
      ⟨after, read, passes⟩
    refine ⟨after, ?_, passes⟩
    simp [readUntil, read]
  readUntil_of_absent mark absent := by
    rcases exists_readTo_of_absent Failure absent with ⟨after, read, passes⟩
    refine ⟨after, ?_, passes, ?_⟩
    · simp [readUntil, read]
    · have whole : scanner.stream = scanner.stream ++ after.stream := passes.unread
      exact List.append_right_eq_self.mp whole.symm

/-- A scanner that is only given back what it has read last answers as the cursor at the start
of the source does. Then it stands at its offset in the source, in characters as in bytes, and
reads on from there. -/
theorem answers_of_permitted (source : List Char) (calls : List Call)
    (permitted : (Cursor.start source).PermitsAll calls) :
    ∃ scanner, (start source).answers calls =
        (pure (((Cursor.start source).answers calls).1, scanner) : Run Failure _) ∧
      scanner.view = ((Cursor.start source).answers calls).2 ∧
      scanner.stream = source.drop scanner.offset ∧ scanner.offset ≤ source.length ∧
      scanner.byteOffset = byteLength (source.take scanner.offset) ∧
      scanner.Exact Failure := by
  have first : StandsIn source (start source).view := Cursor.standsIn_start source
  rcases exists_answers Failure first calls permitted with
    ⟨scanner, answered, view, passed, reached⟩
  have whole : source = passed ++ scanner.stream := reached.unread
  have counted : scanner.offset = passed.length := by
    have offset : scanner.offset = 0 + passed.length := reached.offset
    omega
  have measured : scanner.byteOffset = byteLength passed := by
    have bytes : scanner.byteOffset = 0 + byteLength passed := reached.byteOffset
    omega
  refine ⟨scanner, answered, view, ?_, ?_, ?_, exact Failure scanner⟩
  · rw [counted, whole, List.drop_left]
  · rw [counted, whole, List.length_append]
    exact Nat.le_add_right _ _
  · rw [measured, counted, whole, List.take_left]

/-- A mark that overlaps itself is tried in vain, then a brace is read to which one character
of two bytes is given back. -/
theorem answers_of_permitted_braces :
    let source := "ñ\x7b\x7bé\x7d".toList
    let calls : List Call :=
      [.next, .tryRead "\x7b\x7bë".toList, .peek, .readUntil "\x7b".toList, .putBack "\x7b".toList,
        .readUntil "\x7bé".toList, .putBack "é".toList]
    (Cursor.start source).PermitsAll calls ∧
      ∃ scanner, (start source).answers calls = (pure ([.character (some 'ñ'), .verdict false,
          .character (some '\x7b'), .text (some []), .done, .text (some ['\x7b']), .done],
            scanner) : Run Empty _) ∧
        scanner.view = ⟨source, "é\x7d".toList, 3, 4⟩ ∧ scanner.Exact Empty := by
  intro source calls
  have permitted : (Cursor.start source).PermitsAll calls := by decide
  rcases answers_of_permitted Empty source calls permitted with
    ⟨scanner, answered, view, -, -, -, exact⟩
  exact ⟨permitted, scanner, answered, view, exact⟩

end Scanner

end Mustache
