import Mustache.Proofs.Token.Form

namespace Mustache

/-! Readers of the parts of a tag. Each of them succeeds exactly where its part is
written, and tells what the part says. -/

open Text

namespace Cursor

variable {cursor after : Cursor} {markers : Markers}

/-! ## Bodies and names -/

theorem readBody_eq_ok_iff {body : List Char} :
    cursor.readBody markers = .ok (body, after) ↔
      Clear markers.closing body ∧ Passes cursor (body ++ markers.closing) after := by
  rw [readBody, ← readUntil?_eq_some_iff]
  cases cursor.readUntil? markers.closing with
  | none => simp
  | some found => simp [Prod.ext_iff]

theorem readNamed_eq_ok_iff {named : String → TagContent} {content : TagContent} :
    cursor.readNamed markers named = .ok (content, after) ↔
      ∃ text name, Clear markers.closing text ∧ Names text name ∧
        Passes cursor (text ++ markers.closing) after ∧ content = named name := by
  constructor
  · intro read
    rcases readNamed_eq_ok read with ⟨name, found, said⟩
    rcases readName_eq_ok found with ⟨text, body, checked⟩
    rcases readBody_eq_ok_iff.mp body with ⟨clear, passes⟩
    exact ⟨text, name, clear, checkName_eq_ok_iff.mp checked, passes, said⟩
  · rintro ⟨text, name, clear, names, passes, said⟩
    have body := readBody_eq_ok_iff.mpr ⟨clear, passes⟩
    have checked := checkName_eq_ok_iff.mpr names
    subst said
    simp only [readNamed, readName, body, checked, bind, Except.bind, pure, Except.pure]

theorem readVerbatim_eq_ok_iff {kind : LeafKind} {content : TagContent} :
    cursor.readVerbatim markers kind = .ok (content, after) ↔
      ∃ text, Clear markers.closing text ∧ Passes cursor (text ++ markers.closing) after ∧
        content = .leaf kind (String.ofList text) := by
  constructor
  · intro read
    rcases readVerbatim_eq_ok read with ⟨text, body, said⟩
    rcases readBody_eq_ok_iff.mp body with ⟨clear, passes⟩
    exact ⟨text, clear, passes, said⟩
  · rintro ⟨text, clear, passes, said⟩
    have body := readBody_eq_ok_iff.mpr ⟨clear, passes⟩
    subst said
    simp only [readVerbatim, body, bind, Except.bind, pure, Except.pure]

/-- The brace may be part of the closing mark as well, so the place of the mark
is compared with the end of the name. -/
theorem readTripleName_eq_ok_iff {name : String} :
    cursor.readTripleName markers = .ok (name, after) ↔
      ∃ text, ClearOfBrace markers.closing text ∧ Names text name ∧
        Passes cursor (text ++ '}' :: markers.closing) after := by
  constructor
  · intro read
    rw [readTripleName] at read
    split at read
    · cases read
    · cases read
    · next text last shorter rest braced closed =>
      split at read
      · next bound =>
        cases checked : checkName text with
        | error problem =>
            rw [checked] at read
            cases read
        | ok found =>
            rw [checked] at read
            cases read
            rcases readUntil?_eq_some_iff.mp braced with ⟨-, passes⟩
            rcases readUntil?_eq_some_iff.mp closed with ⟨first, closing⟩
            refine ⟨text, ?_, checkName_eq_ok_iff.mp checked, passes⟩
            intro before behind equal
            apply Nat.le_trans bound
            have found := splitAt?_eq_some_iff.mpr ⟨first, closing.unread⟩
            have occurs :
                cursor.unread = before ++ markers.closing ++ (behind ++ after.unread) := by
              rw [passes.unread, equal, List.append_assoc _ behind]
            exact length_le_of_splitAt? found occurs
      · cases read
  · rintro ⟨text, clear, names, passes⟩
    have braced := readUntil?_eq_some_iff.mpr ⟨clear.clear, passes⟩
    have checked := checkName_eq_ok_iff.mpr names
    cases closed : cursor.readUntil? markers.closing with
    | none =>
        refine absurd ?_ (readUntil?_eq_none_iff.mp closed)
        exact ⟨text ++ ['}'], after.unread, by rw [passes.unread]; simp⟩
    | some found =>
        rcases found with ⟨shorter, last⟩
        rcases readUntil?_eq_some_iff.mp closed with ⟨-, closing⟩
        have bound : text.length ≤ shorter.length := by
          apply Nat.le_of_not_lt
          intro less
          -- A closing mark in front of the brace would stand inside what was passed.
          have starts : shorter ++ markers.closing <+: cursor.unread :=
            ⟨last.unread, closing.unread.symm⟩
          have inside : shorter ++ markers.closing <+: text ++ '}' :: markers.closing := by
            apply List.prefix_of_prefix_length_le starts
            · exact ⟨after.unread, passes.unread.symm⟩
            · simp only [List.length_append, List.length_cons]
              omega
          rcases inside with ⟨rest, extended⟩
          exact absurd (clear shorter rest extended.symm) (Nat.not_le_of_lt less)
        rw [readTripleName, braced, closed]
        simp only [if_pos bound, checked, bind, Except.bind, pure, Except.pure]

theorem readBefore?_eq_some_iff {stops : Char → Bool} {text : List Char} :
    cursor.readBefore? stops = some (text, after) ↔
      (∀ character ∈ text, stops character = false) ∧ Passes cursor text after ∧
        ∃ stop rest, after.unread = stop :: rest ∧ stops stop = true := by
  constructor
  · intro read
    have passes := passes_readBefore? read
    simp only [readBefore?] at read
    split at read
    · cases read
    · next unfinished =>
      rcases Prod.mk.inj (Option.some.inj read) with ⟨equal, same⟩
      rw [equal, (passes_of_unread passes.unread).unique passes] at unfinished
      refine ⟨?_, passes, ?_⟩
      · intro character member
        rw [← equal] at member
        have goes := List.all_eq_true.mp List.all_takeWhile character member
        simpa using goes
      · cases view : after.unread with
        | nil => exact absurd (by rw [atEnd, view]; rfl) unfinished
        | cons stop rest =>
            refine ⟨stop, rest, rfl, ?_⟩
            have dropped : cursor.unread.dropWhile (!stops ·) = stop :: rest := by
              have whole : text ++ cursor.unread.dropWhile (!stops ·) = text ++ after.unread := by
                rw [← passes.unread, ← equal, List.takeWhile_append_dropWhile]
              rw [← view]
              exact List.append_cancel_left whole
            have stopped := List.head?_dropWhile_not (!stops ·) cursor.unread
            rw [dropped] at stopped
            simpa using stopped
  · rintro ⟨goes, passes, stop, rest, view, stopped⟩
    have whole : cursor.unread.takeWhile (!stops ·) = text := by
      rw [passes.unread]
      apply takeWhile_eq_of_stop
      · intro character member
        rw [goes character member]
        rfl
      · intro character member
        rw [view, List.head?_cons, Option.mem_some_iff] at member
        subst member
        rw [stopped]
        rfl
    have same := (passes_of_unread passes.unread).unique passes
    simp only [readBefore?, whole, same]
    rw [if_neg (by rw [atEnd, view]; simp)]

/-! ## New marks -/

/-- A new mark stands behind blanks and before a character that ends it. -/
theorem readMark_eq_some_iff {stops : Char → Bool} {mark : List Char} :
    cursor.skipBlanks.readBefore? stops = some (mark, after) ↔
      ∃ lead, Blank lead ∧ Passes cursor (lead ++ mark) after ∧ Inked (mark ++ after.unread) ∧
        (∀ character ∈ mark, stops character = false) ∧
        ∃ stop rest, after.unread = stop :: rest ∧ stops stop = true := by
  constructor
  · intro read
    rcases skipBlanks_eq_iff.mp (rfl : cursor.skipBlanks = _) with ⟨lead, blank, skipped, inked⟩
    rcases readBefore?_eq_some_iff.mp read with ⟨solid, passes, ended⟩
    rw [passes.unread] at inked
    exact ⟨lead, blank, skipped.trans passes, inked, solid, ended⟩
  · rintro ⟨lead, blank, passes, inked, solid, ended⟩
    rcases passes.divide with ⟨start, skipped, passes⟩
    rw [← passes.unread] at inked
    rw [skipBlanks_eq_iff.mpr ⟨lead, blank, skipped, inked⟩]
    exact readBefore?_eq_some_iff.mpr ⟨solid, passes, ended⟩

/-- The sign behind new marks, which may be left out. -/
theorem exists_sign (cursor : Cursor) :
    ∃ sign, Passes cursor sign ((cursor.tryRead? ['=']).getD cursor) ∧
      (sign = ['='] ∨ sign = [] ∧ ¬ ['='] <+: cursor.unread) := by
  cases read : cursor.tryRead? ['='] with
  | none => exact ⟨[], Passes.refl cursor, .inr ⟨rfl, tryRead?_eq_none_iff.mp read⟩⟩
  | some after => exact ⟨['='], tryRead?_eq_some_iff.mp read, .inl rfl⟩

/-- A tag with new marks ends with a sign and the closing mark. Without the sign
all blanks are counted as standing before it. -/
theorem readEnd_eq_some_iff (sound : markers.Sound) :
    ((cursor.skipBlanks.tryRead? ['=']).getD cursor.skipBlanks).skipBlanks.tryRead?
        markers.closing = some after ↔
      ∃ trail sign last, Blank trail ∧ Blank last ∧ (sign = ['='] ∨ sign = [] ∧ last = []) ∧
        Passes cursor (trail ++ (sign ++ (last ++ markers.closing))) after := by
  constructor
  · intro read
    have passesMark := tryRead?_eq_some_iff.mp read
    rcases skipBlanks_eq_iff.mp (rfl : cursor.skipBlanks = _) with
      ⟨trail, blankTrail, passesTrail, inked⟩
    rcases exists_sign cursor.skipBlanks with ⟨sign, passesSign, signed⟩
    rcases skipBlanks_eq_iff.mp (rfl : Cursor.skipBlanks (Option.getD _ _) = _) with
      ⟨last, blankLast, passesLast, -⟩
    refine ⟨trail, sign, last, blankTrail, blankLast, ?_,
      passesTrail.trans (passesSign.trans (passesLast.trans passesMark))⟩
    rcases signed with signed | ⟨unsigned, -⟩
    · exact .inl signed
    · subst unsigned
      rw [passes_nil_iff.mp passesSign] at passesLast
      rw [passesLast.unread] at inked
      exact .inr ⟨rfl, blankLast.eq_nil inked⟩
  · rintro ⟨trail, sign, last, blankTrail, blankLast, ended, passes⟩
    rcases passes.divide with ⟨one, passesTrail, passes⟩
    rcases passes.divide with ⟨two, passesSign, passes⟩
    rcases passes.divide with ⟨three, passesLast, passesMark⟩
    have markInked : Inked three.unread := by
      rw [passesMark.unread]
      exact sound.inked_closing _
    have skipLast : two.skipBlanks = three :=
      skipBlanks_eq_iff.mpr ⟨last, blankLast, passesLast, markInked⟩
    have skipTrail : cursor.skipBlanks = one := by
      refine skipBlanks_eq_iff.mpr ⟨trail, blankTrail, passesTrail, ?_⟩
      rcases ended with signed | ⟨unsigned, empty⟩
      · rw [passesSign.unread, signed]
        intro character member
        cases member
        decide
      · subst unsigned empty
        rwa [passes_nil_iff.mp passesLast, passes_nil_iff.mp passesSign] at markInked
    have signed : (one.tryRead? ['=']).getD one = two := by
      rcases ended with signed | ⟨unsigned, empty⟩
      · subst signed
        rw [tryRead?_eq_some_iff.mpr passesSign, Option.getD_some]
      · subst unsigned empty
        have absent : one.tryRead? ['='] = none := by
          apply tryRead?_eq_none_iff.mpr
          rw [passesSign.unread, passesLast.unread, passesMark.unread]
          exact sound.unsigned_closing _
        rw [absent, Option.getD_none, passes_nil_iff.mp passesSign]
    rw [skipTrail, signed, skipLast]
    exact tryRead?_eq_some_iff.mpr passesMark

/-- Something stands between the second mark and the closing mark: the character
that ends the second mark cannot start the closing one. -/
theorem ne_nil_of_unsigned (sound : markers.Sound) {trail : List Char} {stop : Char}
    {rest : List Char} (passes : Passes cursor (trail ++ markers.closing) after)
    (view : cursor.unread = stop :: rest) (stopped : (isBlank stop || stop == '=') = true) :
    trail ≠ [] := by
  intro empty
  subst empty
  rw [List.nil_append] at passes
  have same := view.symm.trans passes.unread
  have ink := sound.inked_closing after.unread
  have unsigned := sound.unsigned_closing after.unread
  rw [← same] at ink unsigned
  rw [ink stop rfl, Bool.false_or, beq_iff_eq] at stopped
  exact unsigned ⟨rest, by rw [stopped]; rfl⟩

theorem readRedelimit_eq_ok_iff (sound : markers.Sound) {next : Markers} :
    cursor.readRedelimit markers = .ok (next, after) ↔
      ∃ text, RedelimitText next text ∧ Passes cursor (text ++ markers.closing) after := by
  constructor
  · intro read
    simp only [readRedelimit, pure, Except.pure] at read
    split at read
    case h_2 => cases read
    next opening one first =>
    split at read
    case h_2 => cases read
    next closing two second =>
    split at read
    case h_2 => cases read
    next three third =>
    split at read
    case h_2 => cases read
    next made =>
    cases read
    rcases Markers.of?_eq_some_iff.mp made with ⟨rfl, rfl⟩
    rcases readMark_eq_some_iff.mp first with
      ⟨lead, blankLead, passesOpening, -, solidOpening, stop, rest, view, stopped⟩
    rcases readMark_eq_some_iff.mp second with
      ⟨gap, blankGap, passesClosing, inked, solidClosing, halt, others, viewed, halted⟩
    rcases (readEnd_eq_some_iff sound).mp third with
      ⟨trail, sign, last, blankTrail, blankLast, signed, passesEnd⟩
    have solid : next.Sound := by
      refine ⟨solidOpening, ?_⟩
      intro character member
      have goes := solidClosing character member
      simpa using goes
    have apart : gap ≠ [] := by
      intro empty
      subst empty
      have same : next.closing ++ two.unread = stop :: rest :=
        passesClosing.unread.symm.trans view
      rw [same] at inked
      rw [inked stop rfl] at stopped
      cases stopped
    have ended : sign = ['='] ∨ sign = [] ∧ last = [] ∧ trail ≠ [] := by
      rcases signed with signed | ⟨unsigned, empty⟩
      · exact .inl signed
      · subst unsigned empty
        exact .inr ⟨rfl, rfl, ne_nil_of_unsigned sound passesEnd viewed halted⟩
    refine ⟨_, .intro solid blankLead blankGap blankTrail blankLast apart ended, ?_⟩
    have whole := passesOpening.trans (passesClosing.trans passesEnd)
    simpa only [List.append_assoc] using whole
  · rintro ⟨text, written, passes⟩
    cases written with
    | @intro lead gap trail last sign solid blankLead blankGap blankTrail blankLast apart ended =>
        have divided : lead ++ (next.opening ++ (gap ++ (next.closing ++
              (trail ++ (sign ++ last))))) ++ markers.closing =
            (lead ++ next.opening) ++ ((gap ++ next.closing) ++
              (trail ++ (sign ++ (last ++ markers.closing)))) := by
          simp only [List.append_assoc]
        rw [divided] at passes
        rcases passes.divide with ⟨one, passesOpening, passes⟩
        rcases passes.divide with ⟨two, passesClosing, passesEnd⟩
        have first : cursor.skipBlanks.readBefore? isBlank = some (next.opening, one) := by
          refine readMark_eq_some_iff.mpr
            ⟨lead, blankLead, passesOpening, solid.inked_opening _, solid.opening, ?_⟩
          rw [passesClosing.unread]
          cases gap with
          | nil => exact absurd rfl apart
          | cons head tail => exact ⟨head, _, rfl, blankGap head List.mem_cons_self⟩
        have second : one.skipBlanks.readBefore?
            (fun character => isBlank character || character == '=') =
              some (next.closing, two) := by
          refine readMark_eq_some_iff.mpr
            ⟨gap, blankGap, passesClosing, solid.inked_closing _, ?_, ?_⟩
          · intro character member
            simpa using solid.closing character member
          · rw [passesEnd.unread]
            cases trail with
            | cons head tail =>
                refine ⟨head, _, rfl, ?_⟩
                rw [blankTrail head List.mem_cons_self, Bool.true_or]
            | nil =>
                rcases ended with signed | ⟨-, -, nonempty⟩
                · subst signed
                  exact ⟨'=', _, rfl, by decide⟩
                · exact absurd rfl nonempty
        have signed : sign = ['='] ∨ sign = [] ∧ last = [] := by
          rcases ended with signed | ⟨unsigned, empty, -⟩
          · exact .inl signed
          · exact .inr ⟨unsigned, empty⟩
        have third := (readEnd_eq_some_iff sound).mpr
          ⟨trail, sign, last, blankTrail, blankLast, signed, passesEnd⟩
        have made : Markers.of? next.opening next.closing = some next :=
          Markers.of?_eq_some_iff.mpr ⟨rfl, rfl⟩
        simp only [readRedelimit, first, second, third, made, pure, Except.pure]

end Cursor

end Mustache
