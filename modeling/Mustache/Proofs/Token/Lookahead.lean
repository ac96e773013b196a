import Mustache.Proofs.Token.Reading

namespace Mustache

/-! How far readers look. A tag that is read in full is read in the same way whatever
stands behind its closing mark. So is a tag in which something is missing, as long as the
reader has come to its closing mark and has not stopped at the end of the source. -/

open Text

/-- The problems of a tag that stands there in full. More text behind it does not help. -/
def Problem.isFirm : Problem → Bool
  | missingName | missingMark | unexpectedClosing _ | closingMismatch _ _ => true
  | unclosedTag | missingBrace _ | unclosedRedelimit | malformedRedelimit _
  | unterminatedSection _ => false

theorem Text.Inked.append {text : List Char} (inked : Inked text) (nonempty : text ≠ [])
    (more : List Char) : Inked (text ++ more) := by
  cases text with
  | nil => exact absurd rfl nonempty
  | cons head tail => exact inked

namespace Cursor

/-- The same place in a source with more text at its end. -/
def extend (cursor : Cursor) (more : List Char) : Cursor :=
  { cursor with source := cursor.source ++ more, unread := cursor.unread ++ more }

variable {cursor after : Cursor} {markers : Markers} {mark text more : List Char}
  {content : TagContent} {problem : Problem}

@[simp] theorem unread_extend (cursor : Cursor) (more : List Char) :
    (cursor.extend more).unread = cursor.unread ++ more := rfl

theorem extend_start (source more : List Char) :
    (start source).extend more = start (source ++ more) := rfl

/-! ## Readers that come to their end -/

theorem passes_extend_iff :
    Passes (cursor.extend more) text (after.extend more) ↔ Passes cursor text after := by
  constructor
  · intro passes
    refine ⟨?_, ?_, passes.offset, passes.byteOffset⟩
    · have whole : cursor.unread ++ more = text ++ (after.unread ++ more) := passes.unread
      rw [← List.append_assoc] at whole
      exact List.append_cancel_right whole
    · exact List.append_cancel_right passes.source
  · intro passes
    refine ⟨?_, ?_, passes.offset, passes.byteOffset⟩
    · rw [unread_extend, unread_extend, passes.unread, List.append_assoc]
    · exact congrArg (· ++ more) passes.source

/-- A cursor that has not come to the text at the end stands in the shorter source, too. -/
theorem exists_of_passes_extend {rest : List Char} (passes : Passes (cursor.extend more) text after)
    (ends : after.unread = rest ++ more) :
    ∃ shorter : Cursor, after = shorter.extend more ∧ shorter.unread = rest := by
  refine ⟨⟨cursor.source, rest, after.offset, after.byteOffset⟩, ?_, rfl⟩
  rcases after with ⟨source, unread, offset, bytes⟩
  cases ends
  cases passes.source
  rfl

theorem readUntil?_extend_iff :
    (cursor.extend more).readUntil? mark = some (text, after.extend more) ↔
      cursor.readUntil? mark = some (text, after) := by
  rw [readUntil?_eq_some_iff, readUntil?_eq_some_iff, passes_extend_iff]

theorem readTag_extend_iff (sound : markers.Sound) :
    (cursor.extend more).readTag markers = .ok (content, after.extend more) ↔
      cursor.readTag markers = .ok (content, after) := by
  rw [readTag_eq_ok_iff sound, readTag_eq_ok_iff sound]
  simp only [passes_extend_iff]

/-- Blanks that end before the end of the source are skipped in the same way. -/
theorem skipBlanks_extend (unfinished : cursor.skipBlanks.unread ≠ []) (more : List Char) :
    (cursor.extend more).skipBlanks = cursor.skipBlanks.extend more := by
  rcases skipBlanks_eq_iff.mp (rfl : cursor.skipBlanks = _) with ⟨gap, blank, passes, inked⟩
  exact skipBlanks_eq_iff.mpr
    ⟨gap, blank, passes_extend_iff.mpr passes, inked.append unfinished more⟩

/-- A new mark that is read to the character behind it is read in the same way. -/
theorem readMark_extend {stops : Char → Bool}
    (read : cursor.skipBlanks.readBefore? stops = some (mark, after)) (more : List Char) :
    (cursor.extend more).skipBlanks.readBefore? stops = some (mark, after.extend more) := by
  rcases readMark_eq_some_iff.mp read with
    ⟨lead, blank, passes, inked, solid, stop, rest, view, stopped⟩
  have unfinished : mark ++ after.unread ≠ [] := by
    rw [view]
    exact List.append_ne_nil_of_right_ne_nil _ (List.cons_ne_nil _ _)
  have shown := inked.append unfinished more
  rw [List.append_assoc] at shown
  refine readMark_eq_some_iff.mpr
    ⟨lead, blank, passes_extend_iff.mpr passes, shown, solid, stop, rest ++ more, ?_, stopped⟩
  rw [unread_extend, view, List.cons_append]

/-! ## Readers that find a problem -/

/-- What is made of a result does not fail. -/
theorem bind_ok_eq_error_iff {α β : Type} {result : Except Problem α} {made : α → β} :
    (result >>= fun value => .ok (made value)) = .error problem ↔ result = .error problem := by
  cases result with
  | ok value => exact ⟨nofun, nofun⟩
  | error told =>
      change Except.error told = Except.error problem ↔ _
      rw [Except.error.injEq, Except.error.injEq]

theorem readNamed_eq_error_iff {named : String → TagContent} {body : List Char}
    (found : cursor.readUntil? markers.closing = some (body, after)) :
    cursor.readNamed markers named = .error problem ↔ checkName body = .error problem := by
  have read : cursor.readNamed markers named =
      ((checkName body >>= fun name => .ok (name, after)) >>= fun result =>
        .ok (named result.1, result.2)) := by
    simp only [readNamed, readName, readBody, found]
    rfl
  rw [read, bind_ok_eq_error_iff, bind_ok_eq_error_iff]

theorem readNamed_extend_of_error {named : String → TagContent} (firm : problem.isFirm = true)
    (failed : cursor.readNamed markers named = .error problem) (more : List Char) :
    (cursor.extend more).readNamed markers named = .error problem := by
  cases found : cursor.readUntil? markers.closing with
  | none =>
      simp only [readNamed, readName, readBody, found] at failed
      cases failed
      cases firm
  | some result =>
      have unnamed := (readNamed_eq_error_iff found).mp failed
      exact (readNamed_eq_error_iff (readUntil?_extend_iff.mpr found)).mpr unnamed

theorem readVerbatim_ne_error {kind : LeafKind} (firm : problem.isFirm = true) :
    cursor.readVerbatim markers kind ≠ .error problem := by
  intro failed
  simp only [readVerbatim, readBody] at failed
  cases found : cursor.readUntil? markers.closing with
  | none =>
      rw [found] at failed
      cases failed
      cases firm
  | some result =>
      rw [found] at failed
      cases failed

theorem readTripleName_extend_of_error (firm : problem.isFirm = true)
    (failed : cursor.readTripleName markers = .error problem) (more : List Char) :
    (cursor.extend more).readTripleName markers = .error problem := by
  rw [readTripleName] at failed
  split at failed
  · cases failed
    cases firm
  · cases failed
    cases firm
  · next body last shorter rest braced closed =>
    rw [readTripleName, readUntil?_extend_iff.mpr braced, readUntil?_extend_iff.mpr closed]
    split at failed
    · next bound =>
      simp only [if_pos bound]
      have unnamed := bind_ok_eq_error_iff.mp failed
      exact bind_ok_eq_error_iff.mpr unnamed
    · cases failed
      cases firm

theorem readRedelimit_extend_of_error (sound : markers.Sound) (firm : problem.isFirm = true)
    (failed : cursor.readRedelimit markers = .error problem) (more : List Char) :
    (cursor.extend more).readRedelimit markers = .error problem := by
  simp only [readRedelimit, pure, Except.pure] at failed
  split at failed
  case h_2 =>
    cases failed
    cases firm
  next opening one first =>
  split at failed
  case h_2 =>
    cases failed
    cases firm
  next closing two second =>
  split at failed
  case h_2 =>
    cases failed
    cases firm
  next three third =>
  split at failed
  · cases failed
  · next missing =>
    cases failed
    rcases (readEnd_eq_some_iff sound).mp third with
      ⟨trail, sign, last, blankTrail, blankLast, signed, passes⟩
    have further : Passes (two.extend more) _ (three.extend more) := passes_extend_iff.mpr passes
    have ended := (readEnd_eq_some_iff sound).mpr
      ⟨trail, sign, last, blankTrail, blankLast, signed, further⟩
    simp only [readRedelimit, readMark_extend first more, readMark_extend second more, ended]

theorem eq_error_of_map_eq_error {α β : Type} {transform : α → β} {result : Except Problem α}
    (mapped : result.map transform = .error problem) : result = .error problem := by
  cases result with
  | error told =>
      cases mapped
      rfl
  | ok value => cases mapped

theorem readSigil_extend_of_error (sound : markers.Sound) {behind : Cursor} {sigil : Char}
    (firm : problem.isFirm = true)
    (failed : cursor.readSigil behind markers sigil = .error problem) (more : List Char) :
    (cursor.extend more).readSigil (behind.extend more) markers sigil = .error problem := by
  cases made : namedContent? sigil with
  | some named =>
      rw [readSigil_of_named made] at failed ⊢
      exact readNamed_extend_of_error firm failed more
  | none =>
  cases kept : verbatimKind? sigil with
  | some kind =>
      rw [readSigil_of_kept kept] at failed
      exact absurd failed (readVerbatim_ne_error firm)
  | none =>
  by_cases equals : sigil = '='
  · subst equals
    have found := readRedelimit_extend_of_error sound firm (eq_error_of_map_eq_error failed) more
    simp only [readSigil, found, Except.map]
  by_cases brace : sigil = '{'
  · subst brace
    have found := readTripleName_extend_of_error firm (eq_error_of_map_eq_error failed) more
    simp only [readSigil, found, Except.map]
  rw [readSigil_of_plain (isSigil_eq_false made kept equals brace)] at failed ⊢
  exact readNamed_extend_of_error firm failed more

/-- A tag in which something is missing stays one when the source goes on. -/
theorem readTag_extend_of_error (sound : markers.Sound) (firm : problem.isFirm = true)
    (failed : cursor.readTag markers = .error problem) (more : List Char) :
    (cursor.extend more).readTag markers = .error problem := by
  rw [readTag] at failed ⊢
  split at failed
  · next sigil behind found =>
    have head := next?_eq_some_iff.mp found
    have unfinished : cursor.skipBlanks.unread ≠ [] := by
      rw [head.unread]
      exact List.cons_ne_nil _ _
    have skipped := skipBlanks_extend unfinished more
    rw [skipped, next?_eq_some_iff.mpr (passes_extend_iff.mpr head)]
    exact readSigil_extend_of_error sound firm failed more
  · cases failed
    cases firm

end Cursor

end Mustache
