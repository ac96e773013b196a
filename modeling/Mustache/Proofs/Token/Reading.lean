import Mustache.Proofs.Token.Parts

namespace Mustache

/-! Reading a tag succeeds exactly on the written forms of tags, and what it
reads depends on nothing behind the closing mark. -/

open Text

namespace Cursor

variable {cursor behind after : Cursor} {markers : Markers} {sigil : Char}
  {content : TagContent}

/-! ## Sigils -/

theorem readSigil_of_named {named : String → TagContent}
    (made : namedContent? sigil = some named) :
    cursor.readSigil behind markers sigil = behind.readNamed markers named := by
  rw [namedContent?.eq_def] at made
  split at made <;> cases made <;> rfl

theorem readSigil_of_kept {kind : LeafKind} (kept : verbatimKind? sigil = some kind) :
    cursor.readSigil behind markers sigil = behind.readVerbatim markers kind := by
  rw [verbatimKind?.eq_def] at kept
  split at kept <;> cases kept <;> rfl

theorem readSigil_of_plain (plain : isSigil sigil = false) :
    cursor.readSigil behind markers sigil = cursor.readNamed markers (.leaf .name) := by
  rw [readSigil.eq_def]
  split
  -- Each sigil in turn contradicts the assumption.
  all_goals first | rfl | exact absurd plain (by decide)

theorem isSigil_eq_false (unnamed : namedContent? sigil = none)
    (unkept : verbatimKind? sigil = none) (notEquals : sigil ≠ '=') (notBrace : sigil ≠ '{') :
    isSigil sigil = false := by
  rw [isSigil, decide_eq_false_iff_not]
  intro member
  simp only [List.mem_cons, List.not_mem_nil, or_false] at member
  rcases member with rfl | rfl | rfl | rfl | rfl | rfl | rfl | rfl | rfl
  · cases unkept
  · cases unnamed
  · cases unnamed
  · cases unkept
  · cases unnamed
  · cases unnamed
  · cases unnamed
  · exact notEquals rfl
  · exact notBrace rfl

/-- Behind the first character of a tag, the rest of its text is read. -/
theorem tagText_of_readSigil (sound : markers.Sound) (head : Passes cursor [sigil] behind)
    (inked : isBlank sigil = false)
    (read : cursor.readSigil behind markers sigil = .ok (content, after)) :
    ∃ text, TagText markers text content ∧ Passes cursor (text ++ markers.closing) after := by
  cases made : namedContent? sigil with
  | some named =>
      rw [readSigil_of_named made] at read
      rcases readNamed_eq_ok_iff.mp read with ⟨text, name, clear, names, passes, said⟩
      subst said
      exact ⟨sigil :: text, .named made clear names, head.trans passes⟩
  | none =>
  cases kept : verbatimKind? sigil with
  | some kind =>
      rw [readSigil_of_kept kept] at read
      rcases readVerbatim_eq_ok_iff.mp read with ⟨text, clear, passes, said⟩
      subst said
      exact ⟨sigil :: text, .verbatim kept clear, head.trans passes⟩
  | none =>
  by_cases equals : sigil = '='
  · subst equals
    rcases eq_ok_of_map_eq_ok read with ⟨⟨next, last⟩, found, equal⟩
    rcases Prod.mk.inj equal with ⟨rfl, rfl⟩
    rcases (readRedelimit_eq_ok_iff sound).mp found with ⟨text, written, passes⟩
    exact ⟨'=' :: text, .redelimit written, head.trans passes⟩
  by_cases brace : sigil = '{'
  · subst brace
    rcases eq_ok_of_map_eq_ok read with ⟨⟨name, last⟩, found, equal⟩
    rcases Prod.mk.inj equal with ⟨rfl, rfl⟩
    rcases readTripleName_eq_ok_iff.mp found with ⟨text, clear, names, passes⟩
    refine ⟨'{' :: (text ++ ['}']), .triple clear names, ?_⟩
    have whole := head.trans passes
    simpa using whole
  -- Any other character belongs to the name, which is read from the sigil on.
  have plain := isSigil_eq_false made kept equals brace
  rw [readSigil_of_plain plain] at read
  rcases readNamed_eq_ok_iff.mp read with ⟨text, name, clear, names, passes, said⟩
  subst said
  cases text with
  | nil =>
      rcases names with ⟨trimmed, named⟩
      exact absurd (String.toList_eq_nil_iff.mp trimmed.symm) named
  | cons first rest =>
      have same : first = sigil := by
        have views := head.unread.symm.trans passes.unread
        exact (List.cons.inj views).1.symm
      subst same
      exact ⟨first :: rest, .bare plain inked clear names, passes⟩

theorem readSigil_of_tagText (sound : markers.Sound) {text : List Char}
    (form : TagText markers text content) (head : Passes cursor [sigil] behind)
    (passes : Passes cursor (text ++ markers.closing) after) :
    cursor.readSigil behind markers sigil = .ok (content, after) := by
  rcases form.exists_head with ⟨first, rest, equal, -⟩
  have same : first = sigil := by
    have views := passes.unread.symm.trans head.unread
    rw [equal] at views
    exact (List.cons.inj views).1
  subst same
  have remaining : Passes behind (rest ++ markers.closing) after := by
    rw [equal, List.cons_append, ← List.singleton_append] at passes
    rcases passes.divide with ⟨middle, one, two⟩
    rw [head.unique one]
    exact two
  cases form with
  | verbatim kept clear =>
      cases equal
      rw [readSigil_of_kept kept]
      exact readVerbatim_eq_ok_iff.mpr ⟨_, clear, remaining, rfl⟩
  | named made clear names =>
      cases equal
      rw [readSigil_of_named made]
      exact readNamed_eq_ok_iff.mpr ⟨_, _, clear, names, remaining, rfl⟩
  | bare plain inked clear names =>
      cases equal
      rw [readSigil_of_plain plain]
      exact readNamed_eq_ok_iff.mpr ⟨_, _, clear, names, passes, rfl⟩
  | triple clear names =>
      cases equal
      rw [List.append_assoc, List.singleton_append] at remaining
      have found := readTripleName_eq_ok_iff.mpr ⟨_, clear, names, remaining⟩
      simp only [readSigil, found, Except.map]
  | redelimit written =>
      cases equal
      have found := (readRedelimit_eq_ok_iff sound).mpr ⟨_, written, remaining⟩
      simp only [readSigil, found, Except.map]

/-! ## Tags -/

theorem readTag_eq_ok_iff (sound : markers.Sound) :
    cursor.readTag markers = .ok (content, after) ↔
      ∃ body, TagBody markers body content ∧ Passes cursor (body ++ markers.closing) after := by
  rw [readTag]
  rcases skipBlanks_eq_iff.mp (rfl : cursor.skipBlanks = _) with ⟨lead, blank, skipped, inked⟩
  constructor
  · intro read
    split at read
    · next sigil behind found =>
      have head := next?_eq_some_iff.mp found
      have ink : isBlank sigil = false := inked sigil (by rw [head.unread]; rfl)
      rcases tagText_of_readSigil sound head ink read with ⟨text, form, passes⟩
      refine ⟨lead ++ text, ⟨lead, text, blank, rfl, form⟩, ?_⟩
      have whole := skipped.trans passes
      rwa [← List.append_assoc] at whole
    · cases read
  · rintro ⟨body, ⟨gap, text, blankGap, equal, form⟩, passes⟩
    subst equal
    rw [List.append_assoc] at passes
    rcases passes.divide with ⟨middle, one, two⟩
    have start : cursor.skipBlanks = middle := by
      refine skipBlanks_eq_iff.mpr ⟨gap, blankGap, one, ?_⟩
      rw [two.unread, List.append_assoc]
      exact form.inked _
    rw [start]
    rcases form.exists_head with ⟨sigil, rest, shape, -⟩
    have view : middle.unread = [sigil] ++ (rest ++ markers.closing ++ after.unread) := by
      rw [two.unread, shape]
      simp
    rcases exists_passes view with ⟨behind, head, -⟩
    rw [next?_eq_some_iff.mpr head]
    exact readSigil_of_tagText sound form head two

end Cursor

end Mustache
