import Mustache.Cursor
import Mustache.Proofs.Text.Occurrence

namespace Mustache

/-! What each reader of a cursor finds, told by the text that it passes. A
cursor behind a passed text is determined, so a reader that succeeds is told
completely by that text. -/

namespace Text

/-- Nothing but blank characters. -/
def Blank (text : List Char) : Prop :=
  ∀ character ∈ text, isBlank character = true

/-- The first character, if there is one, is not blank. -/
def Inked (text : List Char) : Prop :=
  ∀ character ∈ text.head?, isBlank character = false

theorem blank_nil : Blank [] := by
  intro character member
  cases member

theorem Blank.eq_nil {text rest : List Char} (blank : Blank text) (inked : Inked (text ++ rest)) :
    text = [] := by
  cases text with
  | nil => rfl
  | cons head tail =>
      have white := blank head List.mem_cons_self
      rw [inked head rfl] at white
      cases white

end Text

namespace Cursor

open Text

variable {cursor after other : Cursor} {mark text first second rest : List Char}

/-! ## Passing a text -/

theorem Passes.unique (one : Passes cursor text after) (two : Passes cursor text other) :
    after = other := by
  rcases after with ⟨source, unread, offset, bytes⟩
  rcases other with ⟨source', unread', offset', bytes'⟩
  have sources := one.source.trans two.source.symm
  have views := List.append_cancel_left (one.unread.symm.trans two.unread)
  have offsets := one.offset.trans two.offset.symm
  have positions := one.byteOffset.trans two.byteOffset.symm
  simp only at sources views offsets positions
  subst sources views offsets positions
  rfl

theorem exists_passes (unread : cursor.unread = text ++ rest) :
    ∃ after, Passes cursor text after ∧ after.unread = rest := by
  have passes := passes_of_unread unread
  refine ⟨_, passes, ?_⟩
  exact List.append_cancel_left (passes.unread.symm.trans unread)

theorem Passes.divide (passes : Passes cursor (first ++ second) after) :
    ∃ middle, Passes cursor first middle ∧ Passes middle second after := by
  have unread := passes.unread
  rw [List.append_assoc] at unread
  rcases exists_passes unread with ⟨middle, one, view⟩
  rcases exists_passes view with ⟨last, two, _⟩
  refine ⟨middle, one, ?_⟩
  rw [passes.unique (one.trans two)]
  exact two

theorem passes_nil_iff : Passes cursor [] after ↔ after = cursor := by
  constructor
  · intro passes
    exact passes.unique (Passes.refl cursor)
  · intro equal
    subst equal
    exact Passes.refl after

/-! ## Readers -/

theorem next?_eq_some_iff {character : Char} :
    cursor.next? = some (character, after) ↔ Passes cursor [character] after := by
  constructor
  · intro read
    rcases Option.map_eq_some_iff.mp read with ⟨first, peeked, equal⟩
    rcases Prod.mk.inj equal with ⟨rfl, rfl⟩
    rcases List.head?_eq_some_iff.mp peeked with ⟨rest, unread⟩
    exact passes_of_unread (unread : cursor.unread = [first] ++ rest)
  · intro passes
    have peeked : cursor.peek? = some character := by
      rw [peek?, passes.unread]
      rfl
    have same := (passes_of_unread passes.unread).unique passes
    rw [next?, peeked, ← same]
    rfl

theorem tryRead?_eq_some_iff : cursor.tryRead? mark = some after ↔ Passes cursor mark after := by
  constructor
  · exact passes_tryRead?
  · intro passes
    have starts : mark.isPrefixOf cursor.unread = true :=
      List.isPrefixOf_iff_prefix.mpr ⟨after.unread, passes.unread.symm⟩
    rw [tryRead?, if_pos starts, (passes_of_unread passes.unread).unique passes]

theorem tryRead?_eq_none_iff : cursor.tryRead? mark = none ↔ ¬ mark <+: cursor.unread := by
  rw [tryRead?]
  split
  · next starts => simp [List.isPrefixOf_iff_prefix.mp starts]
  · next starts =>
    simp only [true_iff]
    intro occurs
    exact starts (List.isPrefixOf_iff_prefix.mpr occurs)

theorem readUntil?_eq_some_iff :
    cursor.readUntil? mark = some (text, after) ↔
      Clear mark text ∧ Passes cursor (text ++ mark) after := by
  constructor
  · intro read
    refine ⟨?_, passes_readUntil? read⟩
    rcases Option.map_eq_some_iff.mp read with ⟨⟨before, behind⟩, found, equal⟩
    rcases Prod.mk.inj equal with ⟨rfl, -⟩
    exact (splitAt?_eq_some_iff.mp found).1
  · rintro ⟨clear, passes⟩
    have found := splitAt?_eq_some_iff.mpr ⟨clear, passes.unread⟩
    have same := (passes_of_unread passes.unread).unique passes
    rw [List.length_append] at same
    rw [readUntil?, found, Option.map_some, ← same]

theorem readUntil?_eq_none_iff : cursor.readUntil? mark = none ↔ ¬ mark <:+: cursor.unread := by
  rw [readUntil?, Option.map_eq_none_iff, splitAt?_eq_none_iff]

/-- A leading text of characters with a property ends where one without it stands. -/
theorem takeWhile_eq_of_stop {goes : Char → Bool} (inside : ∀ character ∈ text, goes character)
    (behind : ∀ character ∈ rest.head?, goes character = false) :
    (text ++ rest).takeWhile goes = text := by
  rw [List.takeWhile_append_of_pos inside]
  cases rest with
  | nil => simp
  | cons head tail =>
      rw [List.takeWhile_cons_of_neg (by simp [behind head rfl]), List.append_nil]

/-- Blanks are skipped up to the first character that is none. -/
theorem skipBlanks_eq_iff :
    cursor.skipBlanks = after ↔
      ∃ gap, Blank gap ∧ Passes cursor gap after ∧ Inked after.unread := by
  constructor
  · intro equal
    subst equal
    have passes := cursor.passes_skipBlanks
    refine ⟨_, ?_, passes, ?_⟩
    · exact List.all_eq_true.mp List.all_takeWhile
    · intro character member
      have view : cursor.skipBlanks.unread = cursor.unread.dropWhile isBlank :=
        List.append_cancel_left
          (passes.unread.symm.trans List.takeWhile_append_dropWhile.symm)
      rw [view] at member
      have stop := List.head?_dropWhile_not isBlank cursor.unread
      rw [Option.mem_def.mp member] at stop
      exact stop
  · rintro ⟨gap, blank, passes, inked⟩
    have whole : cursor.unread.takeWhile isBlank = gap := by
      rw [passes.unread]
      exact takeWhile_eq_of_stop blank inked
    have skipped := cursor.passes_skipBlanks
    rw [whole] at skipped
    exact skipped.unique passes

end Cursor

end Mustache
