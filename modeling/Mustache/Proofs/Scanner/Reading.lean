import Mathlib.Data.List.TakeWhile
import Mustache.Proofs.Scanner
import Mustache.Proofs.Token.Parts
import Mustache.Scanner.Reading

namespace Mustache

/-! Reading a tag with a scanner and with a cursor. Both read the same and fail in the same way,
and the scanner comes to stand where the cursor does. No condition of a step is ever broken, so
what would be done about one does not matter. -/

open Text

namespace Cursor

variable {cursor next : Cursor} {markers : Markers} {mark : List Char} {character : Char}

/-! ## Looking for a mark, one character after the other -/

theorem advance_succ (passes : Passes cursor [character] next) (count : Nat) :
    cursor.advance (count + 1) = next.advance count := by
  have whole := passes.trans (next.passes_advance count)
  have view : cursor.unread.take (count + 1) = [character] ++ next.unread.take count := by
    rw [passes.unread]
    rfl
  have same := cursor.passes_advance (count + 1)
  rw [view] at same
  exact same.unique whole

theorem readUntil?_of_prefix (starts : mark <+: cursor.unread) :
    ∃ after, cursor.readUntil? mark = some ([], after) ∧ Passes cursor mark after := by
  rcases starts with ⟨rest, equal⟩
  rcases exists_passes equal.symm with ⟨after, passes, -⟩
  exact ⟨after, readUntil?_eq_some_iff.mpr ⟨clear_nil mark, passes⟩, passes⟩

/-- A mark that does not stand here is looked for behind the next character. -/
theorem readUntil?_of_passes (absent : ¬ mark <+: cursor.unread)
    (passes : Passes cursor [character] next) :
    cursor.readUntil? mark =
      (next.readUntil? mark).map fun (text, after) => (character :: text, after) := by
  have view : cursor.unread = character :: next.unread := passes.unread
  have later : mark.isPrefixOf (character :: next.unread) = false := by
    rw [Bool.eq_false_iff, ne_eq, List.isPrefixOf_iff_prefix, ← view]
    exact absent
  rw [readUntil?, readUntil?, view, splitAt?_cons, later]
  cases splitAt? mark next.unread with
  | none => rfl
  | some found =>
      have moved : found.1.length + 1 + mark.length = found.1.length + mark.length + 1 := by omega
      simp [moved, advance_succ passes]

/-! ## Names between three braces -/

/-- The rest of a name of which `body` has been read. -/
def readTripleFrom (body : List Char) (cursor : Cursor) (markers : Markers) :
    Except Problem (String × Cursor) :=
  match cursor.readUntil? ('}' :: markers.closing), cursor.readUntil? markers.closing with
  | _, none => .error .unclosedTag
  | none, some _ => .error (.missingBrace (String.ofList markers.closing))
  | some (text, after), some (shorter, _) =>
    if text.length ≤ shorter.length then do
      let name ← checkName (body ++ text)
      return (name, after)
    else .error (.missingBrace (String.ofList markers.closing))

theorem readTripleFrom_of_ended (ended : '}' :: markers.closing <+: cursor.unread)
    (body : List Char) :
    ∃ after, Passes cursor ('}' :: markers.closing) after ∧
      cursor.readTripleFrom body markers = (checkName body).map fun name => (name, after) := by
  rcases readUntil?_of_prefix ended with ⟨after, braced, passes⟩
  refine ⟨after, passes, ?_⟩
  cases closed : cursor.readUntil? markers.closing with
  | none =>
      refine absurd ?_ (readUntil?_eq_none_iff.mp closed)
      exact (List.suffix_cons '}' markers.closing).isInfix.trans ended.isInfix
  | some found =>
      simp only [readTripleFrom, braced, closed, List.length_nil, Nat.zero_le, if_true,
        List.append_nil]
      cases checkName body <;> rfl

theorem readTripleFrom_of_closed (continued : ¬ '}' :: markers.closing <+: cursor.unread)
    (closed : markers.closing <+: cursor.unread) (body : List Char) :
    cursor.readTripleFrom body markers =
      .error (.missingBrace (String.ofList markers.closing)) := by
  rcases readUntil?_of_prefix closed with ⟨after, found, -⟩
  cases braced : cursor.readUntil? ('}' :: markers.closing) with
  | none => simp only [readTripleFrom, braced, found]
  | some later =>
      rcases later with ⟨text, last⟩
      have passes := passes_readUntil? braced
      have longer : ¬ text.length ≤ ([] : List Char).length := by
        intro none
        rw [List.length_nil, Nat.le_zero, List.length_eq_zero_iff] at none
        apply continued
        rw [passes.unread, none]
        exact List.prefix_append _ _
      simp only [readTripleFrom, braced, found, if_neg longer]

theorem readTripleFrom_of_exhausted (ended : cursor.unread = [])
    (unclosed : ¬ markers.closing <+: cursor.unread) (body : List Char) :
    cursor.readTripleFrom body markers = .error .unclosedTag := by
  have absent : cursor.readUntil? markers.closing = none := by
    rw [readUntil?_eq_none_iff, ended]
    intro occurs
    apply unclosed
    rw [List.infix_nil.mp occurs]
    exact List.nil_prefix
  simp only [readTripleFrom, absent]

theorem readTripleFrom_of_passes (continued : ¬ '}' :: markers.closing <+: cursor.unread)
    (unclosed : ¬ markers.closing <+: cursor.unread) (passes : Passes cursor [character] next)
    (body : List Char) :
    cursor.readTripleFrom body markers = next.readTripleFrom (body ++ [character]) markers := by
  rw [readTripleFrom, readTripleFrom, readUntil?_of_passes continued passes,
    readUntil?_of_passes unclosed passes]
  cases next.readUntil? ('}' :: markers.closing) <;> cases next.readUntil? markers.closing <;>
    simp

/-! ## New marks -/

theorem readBefore?_eq_none_iff {stops : Char → Bool} :
    cursor.readBefore? stops = none ↔ ∀ character ∈ cursor.unread, stops character = false := by
  have passes : Passes cursor (cursor.unread.takeWhile (!stops ·)) _ :=
    passes_of_unread List.takeWhile_append_dropWhile.symm
  have view := List.append_cancel_left
    (passes.unread.symm.trans List.takeWhile_append_dropWhile.symm)
  simp [readBefore?, atEnd, view, List.dropWhile_eq_nil_iff]

/-- Blanks that have been passed already are not skipped again. -/
theorem skipBlanks_of_passes (blank : isBlank character = true)
    (passes : Passes cursor [character] next) : next.skipBlanks = cursor.skipBlanks := by
  rcases skipBlanks_eq_iff.mp (rfl : next.skipBlanks = _) with ⟨gap, white, skipped, inked⟩
  symm
  refine skipBlanks_eq_iff.mpr ⟨[character] ++ gap, ?_, passes.trans skipped, inked⟩
  intro other member
  rcases List.mem_cons.mp member with equal | inside
  · rw [equal, blank]
  · exact white other inside

end Cursor

namespace Scanner

open Cursor (Passes)

variable {Failure Result Next : Type} {scanner after : Scanner} {character : Char}
  {text rest : List Char} {markers : Markers}

/-- A run finds what a cursor has found, and leaves its scanner where the cursor then stands. -/
inductive Follows (run : Run Failure (Result × Scanner)) :
    Except Failure (Result × Cursor) → Prop where
  | reads {result : Result} {scanner : Scanner} (same : run = pure (result, scanner)) :
      Follows run (.ok (result, scanner.view))
  | fails {failure : Failure} (same : run = Run.fail failure) : Follows run (.error failure)

namespace Follows

variable {run : Run Failure (Result × Scanner)} {found : Except Failure (Result × Cursor)}

theorem of_reads {result : Result} {cursor : Cursor} (same : run = pure (result, scanner))
    (view : scanner.view = cursor) : Follows run (.ok (result, cursor)) :=
  view ▸ .reads same

/-- What follows one reading after the other follows both. -/
theorem bind {next : Result × Scanner → Run Failure (Next × Scanner)}
    {further : Result × Cursor → Except Failure (Next × Cursor)} (first : Follows run found)
    (second : ∀ result scanner, Follows (next (result, scanner)) (further (result, scanner.view))) :
    Follows (run >>= next) (found >>= further) := by
  cases first with
  | reads same =>
      rw [same, pure_bind]
      exact second _ _
  | fails same =>
      rw [same, Run.fail_bind]
      exact .fails rfl

theorem ofExcept {value : Except Failure Next} {next : Next → Run Failure (Result × Scanner)}
    {further : Next → Except Failure (Result × Cursor)}
    (second : ∀ result, Follows (next result) (further result)) :
    Follows (Run.ofExcept value >>= next) (value >>= further) := by
  cases value with
  | ok result => exact second result
  | error failure => exact .fails rfl

theorem map (first : Follows run found) (change : Result → Next) :
    Follows (do let (result, scanner) ← run; return (change result, scanner))
      (found.map fun (result, cursor) => (change result, cursor)) := by
  cases first with
  | reads same =>
      rw [same, pure_bind]
      exact .reads rfl
  | fails same =>
      rw [same, Run.fail_bind]
      exact .fails rfl

end Follows

/-! ## Bodies and names -/

theorem follows_readBody (scanner : Scanner) (markers : Markers) :
    Follows (scanner.readBody markers) (scanner.view.readBody markers) := by
  rcases exists_readUntil Problem scanner markers.closing with ⟨after, read, view⟩
  cases found : scanner.view.readUntil? markers.closing with
  | none =>
      rw [Cursor.seek, found] at read
      rw [readBody, read, pure_bind, Cursor.readBody, found]
      exact .fails rfl
  | some result =>
      rw [Cursor.seek, found] at read view
      rw [readBody, read, pure_bind, Cursor.readBody, found]
      exact .of_reads rfl view

theorem follows_readName (scanner : Scanner) (markers : Markers) :
    Follows (scanner.readName markers) (scanner.view.readName markers) := by
  apply (follows_readBody scanner markers).bind
  intro body after
  apply Follows.ofExcept
  intro name
  exact .reads rfl

theorem follows_readNamed (scanner : Scanner) (markers : Markers)
    (content : String → TagContent) :
    Follows (scanner.readNamed markers content) (scanner.view.readNamed markers content) := by
  apply (follows_readName scanner markers).bind
  intro name after
  exact .reads rfl

theorem follows_readVerbatim (scanner : Scanner) (markers : Markers) (kind : LeafKind) :
    Follows (scanner.readVerbatim markers kind) (scanner.view.readVerbatim markers kind) := by
  apply (follows_readBody scanner markers).bind
  intro body after
  exact .reads rfl

/-! ## Names between three braces -/

theorem follows_run_tripleLoop_of_ended (ended : '}' :: markers.closing <+: scanner.stream)
    (body : List Char) :
    Follows ((tripleLoop markers.closing).run (body, scanner))
      (scanner.view.readTripleFrom body markers) := by
  rcases exists_tryRead_of_prefix Problem ended with ⟨after, read, passes⟩
  have starts : '}' :: markers.closing <+: scanner.view.unread := ended
  rcases Cursor.readTripleFrom_of_ended starts body with ⟨cursor, same, told⟩
  rw [told]
  cases checked : Cursor.checkName body with
  | ok name =>
      have round : (tripleLoop markers.closing).round (body, scanner) =
          pure (.ends (name, after)) := by
        simp [tripleLoop, read, checked]
      exact .of_reads (Loop.run_of_ends round) (passes.unique same)
  | error problem =>
      have round : (tripleLoop markers.closing).round (body, scanner) = Run.fail problem := by
        simp [tripleLoop, read, checked]
      exact .fails (Loop.run_of_fails round)

theorem round_tripleLoop_of_closed (continued : ¬ '}' :: markers.closing <+: scanner.stream)
    (closed : markers.closing <+: scanner.stream) (body : List Char) :
    (tripleLoop markers.closing).round (body, scanner) =
      Run.fail (.missingBrace (String.ofList markers.closing)) := by
  rcases exists_tryRead_of_not_prefix Problem continued with ⟨same, failed, view⟩
  have starts : markers.closing <+: same.stream := by
    rwa [← unread_view, view]
  rcases exists_tryRead_of_prefix Problem starts with ⟨after, read, -⟩
  simp [tripleLoop, failed, read]

/-- Where neither mark stands, the next character is read. -/
theorem exists_round_tripleLoop (continued : ¬ '}' :: markers.closing <+: scanner.stream)
    (unclosed : ¬ markers.closing <+: scanner.stream) (body : List Char) :
    ∃ same : Scanner, same.view = scanner.view ∧
      (∀ character after, same.next? = some (character, after) →
        (tripleLoop markers.closing).round (body, scanner) =
          pure (.goesOn (body ++ [character], after))) ∧
      (same.next? = none →
        (tripleLoop markers.closing).round (body, scanner) = Run.fail .unclosedTag) := by
  rcases exists_tryRead_of_not_prefix Problem continued with ⟨middle, first, view⟩
  have absent : ¬ markers.closing <+: middle.stream := by
    rwa [← unread_view, view]
  rcases exists_tryRead_of_not_prefix Problem absent with ⟨same, second, equal⟩
  refine ⟨same, equal.trans view, ?_, ?_⟩
  · intro character after next
    simp [tripleLoop, first, second, next]
  · intro ended
    simp [tripleLoop, first, second, ended]

theorem follows_run_tripleLoop (scanner : Scanner) (markers : Markers) (body : List Char) :
    Follows ((tripleLoop markers.closing).run (body, scanner))
      (scanner.view.readTripleFrom body markers) := by
  generalize view : scanner.stream = stream
  induction stream generalizing scanner body with
  | nil =>
      have unclosed : ¬ markers.closing <+: scanner.stream := by
        rw [view, List.prefix_nil]
        exact markers.closing_ne_nil
      have continued : ¬ '}' :: markers.closing <+: scanner.stream := by simp [view]
      rcases exists_round_tripleLoop continued unclosed body with ⟨same, equal, -, fails⟩
      have exhausted : same.next? = none :=
        next?_eq_none_iff.mpr ((congrArg Cursor.unread equal).trans view)
      rw [Cursor.readTripleFrom_of_exhausted (view : scanner.view.unread = []) unclosed]
      exact .fails (Loop.run_of_fails (fails exhausted))
  | cons head tail induction =>
      by_cases ended : '}' :: markers.closing <+: scanner.stream
      · exact follows_run_tripleLoop_of_ended ended body
      by_cases closed : markers.closing <+: scanner.stream
      · have starts : markers.closing <+: scanner.view.unread := closed
        rw [Cursor.readTripleFrom_of_closed ended starts]
        exact .fails (Loop.run_of_fails (round_tripleLoop_of_closed ended closed body))
      rcases exists_round_tripleLoop ended closed body with ⟨same, equal, goesOn, -⟩
      rcases exists_next? ((congrArg Cursor.unread equal).trans view) with
        ⟨after, next, passes, remaining⟩
      rw [equal] at passes
      have forward : scanner.offset < after.offset := by
        have counted : after.offset = scanner.offset + 1 := passes.offset
        omega
      rw [Loop.run_of_goesOn (goesOn head after next) forward,
        Cursor.readTripleFrom_of_passes ended closed passes]
      exact induction after _ remaining

theorem follows_readTripleName (scanner : Scanner) (markers : Markers) :
    Follows (scanner.readTripleName markers) (scanner.view.readTripleName markers) :=
  follows_run_tripleLoop scanner markers []

/-! ## New marks -/

theorem collects_openingLoop : Collects
    (fun stream => ∀ character ∈ stream.head?, isBlank character = false)
    (fun mark character => mark ++ [character]) openingLoop where
  place _ _ := rfl
  round mark scanner character rest view goes := by
    have solid : isBlank character = false := goes character rfl
    rcases exists_next? view with ⟨after, next, passes, -⟩
    refine ⟨after, ?_, passes⟩
    simp [openingLoop, next, solid]

theorem collects_closingLoop : Collects
    (fun stream => ∀ character ∈ stream.head?, (isBlank character || character == '=') = false)
    (fun mark character => mark ++ [character]) closingLoop where
  place _ _ := rfl
  round mark scanner character rest view goes := by
    have solid : (isBlank character || character == '=') = false := goes character rfl
    rcases exists_peek scanner with ⟨same, peeked, equal⟩
    rcases exists_pass ((congrArg Cursor.unread equal).trans view) with ⟨passes, -⟩
    rw [equal] at passes
    refine ⟨same.pass, ?_, passes⟩
    simp only [closingLoop, peeked, view, List.head?_cons, solid]
    rfl

theorem exists_readOpening {mark : List Char} {cursor : Cursor}
    (found : scanner.view.readBefore? isBlank = some (mark, cursor)) :
    ∃ after, scanner.readOpening = pure (mark, after) ∧
      after.view.skipBlanks = cursor.skipBlanks := by
  rcases Cursor.readBefore?_eq_some_iff.mp found with ⟨solid, passes, stop, rest, view, stopped⟩
  rcases collects_openingLoop.exists_run_of_forall solid passes.unread [] with
    ⟨middle, same, more⟩
  rw [foldl_snoc] at same
  have equal := more.unique passes
  rcases exists_next? ((congrArg Cursor.unread equal).trans view) with ⟨after, next, head, -⟩
  have round : openingLoop.round (mark, middle) = pure (.ends (mark, after)) := by
    simp [openingLoop, next, stopped]
  rw [equal] at head
  exact ⟨after, same.trans (Loop.run_of_ends round), Cursor.skipBlanks_of_passes stopped head⟩

theorem readOpening_of_none (absent : scanner.view.readBefore? isBlank = none) :
    scanner.readOpening = Run.fail .unclosedRedelimit := by
  have solid := Cursor.readBefore?_eq_none_iff.mp absent
  rcases collects_openingLoop.exists_run_of_forall solid (List.append_nil _).symm [] with
    ⟨after, same, passes⟩
  rw [foldl_snoc] at same
  have exhausted : after.next? = none :=
    next?_eq_none_iff.mpr (List.append_right_eq_self.mp passes.unread.symm)
  have round : openingLoop.round (scanner.stream, after) = Run.fail .unclosedRedelimit := by
    simp [openingLoop, exhausted]
  exact same.trans (Loop.run_of_fails round)

theorem exists_readClosing {mark : List Char} {cursor : Cursor}
    (found : scanner.view.readBefore? (fun character => isBlank character || character == '=') =
      some (mark, cursor)) :
    ∃ after, scanner.readClosing = pure (mark, after) ∧ after.view = cursor := by
  rcases Cursor.readBefore?_eq_some_iff.mp found with ⟨solid, passes, stop, rest, view, stopped⟩
  rcases collects_closingLoop.exists_run_of_forall solid passes.unread [] with
    ⟨middle, same, more⟩
  rw [foldl_snoc] at same
  have equal := more.unique passes
  have stream : middle.stream = stop :: rest := (congrArg Cursor.unread equal).trans view
  rcases exists_peek middle with ⟨after, peeked, kept⟩
  have round : closingLoop.round (mark, middle) = pure (.ends (mark, after)) := by
    simp only [closingLoop, peeked, stream, List.head?_cons, stopped, if_true]
  exact ⟨after, same.trans (Loop.run_of_ends round), kept.trans equal⟩

theorem readClosing_of_none
    (absent : scanner.view.readBefore? (fun character => isBlank character || character == '=') =
      none) :
    scanner.readClosing = Run.fail .unclosedRedelimit := by
  have solid := Cursor.readBefore?_eq_none_iff.mp absent
  rcases collects_closingLoop.exists_run_of_forall solid (List.append_nil _).symm [] with
    ⟨middle, same, passes⟩
  rw [foldl_snoc] at same
  have exhausted : middle.stream = [] := List.append_right_eq_self.mp passes.unread.symm
  rcases exists_peek middle with ⟨after, peeked, -⟩
  have round : closingLoop.round (scanner.stream, middle) = Run.fail .unclosedRedelimit := by
    simp [closingLoop, peeked, exhausted]
  exact same.trans (Loop.run_of_fails round)

theorem view_passSign (scanner : Scanner) :
    scanner.passSign.view = (scanner.view.tryRead? ['=']).getD scanner.view := by
  rcases exists_peek scanner with ⟨same, peeked, equal⟩
  by_cases signed : scanner.stream.head? = some '='
  · rcases List.head?_eq_some_iff.mp signed with ⟨rest, view⟩
    rcases exists_pass ((congrArg Cursor.unread equal).trans view) with ⟨passes, -⟩
    rw [equal] at passes
    rw [Cursor.tryRead?_eq_some_iff.mpr passes]
    simp [passSign, peeked, signed]
  · have absent : scanner.view.tryRead? ['='] = none := by
      rw [Cursor.tryRead?_eq_none_iff]
      rintro ⟨rest, view⟩
      apply signed
      rw [← unread_view, ← view]
      rfl
    rw [absent]
    simp [passSign, peeked, signed, equal]

theorem follows_readRedelimit (scanner : Scanner) (markers : Markers) :
    Follows (scanner.readRedelimit markers) (scanner.view.readRedelimit markers) := by
  rcases exists_skipBlanks Problem scanner with ⟨one, skipped, view⟩
  simp only [readRedelimit, skipped, pure_bind, Cursor.readRedelimit, ← view]
  cases opened : one.view.readBefore? isBlank with
  | none =>
      rw [readOpening_of_none opened, Run.fail_bind]
      exact .fails rfl
  | some first =>
  rcases first with ⟨opening, cursor⟩
  rcases exists_readOpening opened with ⟨two, read, same⟩
  rcases exists_skipBlanks Problem two with ⟨three, skipped, view⟩
  simp only [read, skipped, pure_bind, ← same, ← view]
  cases closed :
      three.view.readBefore? (fun character => isBlank character || character == '=') with
  | none =>
      rw [readClosing_of_none closed, Run.fail_bind]
      exact .fails rfl
  | some second =>
  rcases second with ⟨closing, cursor⟩
  rcases exists_readClosing closed with ⟨four, read, same⟩
  rcases exists_skipBlanks Problem four with ⟨five, skipped, view⟩
  rcases exists_skipBlanks Problem five.passSign with ⟨six, signed, last⟩
  simp only [read, skipped, signed, pure_bind, ← same, ← view, ← view_passSign, ← last]
  rcases exists_tryRead Problem six markers.closing with
    ⟨after, ⟨tried, passes⟩ | ⟨tried, absent, -⟩⟩
  · rw [tried, Cursor.tryRead?_eq_some_iff.mpr passes]
    cases made : Markers.of? opening closing with
    | none => exact .fails rfl
    | some next => exact .reads rfl
  · rw [tried, Cursor.tryRead?_eq_none_iff.mpr absent]
    exact .fails rfl

/-! ## Tags -/

theorem follows_readSigil {cursor : Cursor} {sigil : Char}
    (head : Passes cursor [sigil] scanner.view) :
    Follows (scanner.readSigil markers sigil) (cursor.readSigil scanner.view markers sigil) := by
  rw [readSigil.eq_def]
  split
  · exact follows_readVerbatim _ _ _
  · exact follows_readVerbatim _ _ _
  · exact follows_readNamed _ _ _
  · exact follows_readNamed _ _ _
  · exact follows_readNamed _ _ _
  · exact follows_readNamed _ _ _
  · exact follows_readNamed _ _ _
  · exact (follows_readRedelimit _ _).map _
  · exact (follows_readTripleName _ _).map _
  · rcases exists_putBack Problem head with ⟨after, back, view⟩
    rw [back, pure_bind, Cursor.readSigil, ← view]
    · exact follows_readNamed _ _ _
    -- No other branch reads the character either.
    all_goals assumption

theorem follows_readTag (scanner : Scanner) (markers : Markers) :
    Follows (scanner.readTag markers) (scanner.view.readTag markers) := by
  rcases exists_skipBlanks Problem scanner with ⟨first, skipped, view⟩
  simp only [readTag, skipped, pure_bind, Cursor.readTag, ← view]
  cases next : first.next? with
  | none =>
      have ended : first.view.unread = [] := next?_eq_none_iff.mp next
      have absent : first.view.next? = none := by
        rw [Cursor.next?, Cursor.peek?, ended]
        rfl
      rw [absent]
      exact .fails rfl
  | some found =>
      rcases found with ⟨sigil, behind⟩
      have passes := passes_next? next
      rw [Cursor.next?_eq_some_iff.mpr passes]
      exact follows_readSigil passes

end Scanner

end Mustache
