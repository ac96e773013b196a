import Mustache.Proofs.Cursor
import Mustache.Token.Sequence

namespace Mustache

/-! The written forms of tags. `TagBody` lists every text that can stand between
two marks together with what the tag says there, and reading a tag finds exactly
these texts. A form depends on nothing in front of the tag or behind it. -/

open Text

/-! ## Marks in force -/

namespace Markers

/-- Marks as they come into force: none holds a blank character, and the closing
one holds no equals sign. -/
structure Sound (markers : Markers) : Prop where
  opening : ∀ character ∈ markers.opening, isBlank character = false
  closing : ∀ character ∈ markers.closing, isBlank character = false ∧ character ≠ '='

-- The quantifiers go over the marks; an instance that goes over all characters
-- would decide them too, but not in any time.
instance (markers : Markers) : Decidable markers.Sound :=
  have : Decidable (∀ character ∈ markers.opening, isBlank character = false) :=
    List.decidableBAll _ markers.opening
  have : Decidable (∀ character ∈ markers.closing,
      isBlank character = false ∧ character ≠ '=') :=
    List.decidableBAll _ markers.closing
  decidable_of_iff
    ((∀ character ∈ markers.opening, isBlank character = false) ∧
      ∀ character ∈ markers.closing, isBlank character = false ∧ character ≠ '=')
    ⟨fun both => ⟨both.1, both.2⟩, fun sound => ⟨sound.opening, sound.closing⟩⟩

theorem sound_standard : standard.Sound := by
  decide

theorem of?_eq_some_iff {opening closing : List Char} {markers : Markers} :
    of? opening closing = some markers ↔
      opening = markers.opening ∧ closing = markers.closing := by
  rw [of?]
  split
  · constructor
    · intro equal
      cases equal
      exact ⟨rfl, rfl⟩
    · rintro ⟨rfl, rfl⟩
      rfl
  · next empty =>
    constructor
    · intro equal
      cases equal
    · rintro ⟨rfl, rfl⟩
      exact absurd ⟨markers.opening_ne_nil, markers.closing_ne_nil⟩ empty

end Markers

/-- A text whose characters are not blank shows its first one. -/
theorem Text.inked_append {text : List Char} (nonempty : text ≠ [])
    (solid : ∀ character ∈ text, isBlank character = false) (rest : List Char) :
    Inked (text ++ rest) := by
  cases text with
  | nil => exact absurd rfl nonempty
  | cons head tail =>
      intro character member
      rw [List.cons_append, List.head?_cons, Option.mem_some_iff] at member
      subst member
      exact solid _ List.mem_cons_self

namespace Markers.Sound

variable {markers : Markers}

theorem inked_opening (sound : markers.Sound) (rest : List Char) :
    Inked (markers.opening ++ rest) :=
  inked_append markers.opening_ne_nil sound.opening rest

theorem inked_closing (sound : markers.Sound) (rest : List Char) :
    Inked (markers.closing ++ rest) :=
  inked_append markers.closing_ne_nil (fun character member => (sound.closing character member).1)
    rest

theorem unsigned_closing (sound : markers.Sound) (rest : List Char) :
    ¬ ['='] <+: markers.closing ++ rest := by
  rintro ⟨behind, equal⟩
  cases closing : markers.closing with
  | nil => exact markers.closing_ne_nil closing
  | cons head tail =>
      rw [closing] at equal
      have sign := (List.cons.inj equal).1
      have different := (sound.closing head (by rw [closing]; exact List.mem_cons_self)).2
      exact different sign.symm

end Markers.Sound

/-! ## Names -/

/-- The name that a text stands for: the text without the blanks around it. -/
def Names (text : List Char) (name : String) : Prop :=
  trimBlanks text = name.toList ∧ name ≠ ""

instance (text : List Char) (name : String) : Decidable (Names text name) :=
  inferInstanceAs (Decidable (_ ∧ _))

theorem Cursor.checkName_eq_ok_iff {text : List Char} {name : String} :
    checkName text = .ok name ↔ Names text name := by
  rw [checkName, Names]
  cases trimmed : trimBlanks text with
  | nil =>
      constructor
      · intro equal
        cases equal
      · rintro ⟨equal, named⟩
        exact absurd (String.toList_eq_nil_iff.mp equal.symm) named
  | cons head tail =>
      constructor
      · intro equal
        cases equal
        simp
      · rintro ⟨equal, -⟩
        change Except.ok (String.ofList (head :: tail)) = _
        rw [equal, String.ofList_toList]

/-! ## Forms of tags -/

/-- What a sigil makes of the name behind it. -/
def namedContent? : Char → Option (String → TagContent)
  | '#' => some (.opening .section)
  | '^' => some (.opening .inverted)
  | '/' => some .closing
  | '&' => some (.leaf .unescaped)
  | '>' => some (.leaf .inclusion)
  | _ => none

/-- The tags whose text is kept as it is written. -/
def verbatimKind? : Char → Option LeafKind
  | '%' => some .pragma
  | '!' => some .comment
  | _ => none

/-- Characters that do not belong to a name where a tag starts. -/
def isSigil (character : Char) : Bool :=
  character ∈ ['%', '#', '^', '!', '&', '>', '/', '=', '{']

/-- How new marks are written behind an equals sign. Another sign follows, or at
least a blank. -/
inductive RedelimitText (next : Markers) : List Char → Prop
  | intro {lead gap trail last sign : List Char} (sound : next.Sound)
      (blankLead : Blank lead) (blankGap : Blank gap) (blankTrail : Blank trail)
      (blankLast : Blank last) (apart : gap ≠ [])
      (ended : sign = ['='] ∨ sign = [] ∧ last = [] ∧ trail ≠ []) :
      RedelimitText next
        (lead ++ (next.opening ++ (gap ++ (next.closing ++ (trail ++ (sign ++ last))))))

/-- A tag from its sigil on, up to the closing mark. -/
inductive TagText (markers : Markers) : List Char → TagContent → Prop
  | verbatim {sigil : Char} {kind : LeafKind} {text : List Char}
      (kept : verbatimKind? sigil = some kind) (clear : Clear markers.closing text) :
      TagText markers (sigil :: text) (.leaf kind (String.ofList text))
  | named {sigil : Char} {content : String → TagContent} {text : List Char} {name : String}
      (made : namedContent? sigil = some content) (clear : Clear markers.closing text)
      (names : Names text name) : TagText markers (sigil :: text) (content name)
  | bare {first : Char} {text : List Char} {name : String} (plain : isSigil first = false)
      (inked : isBlank first = false) (clear : Clear markers.closing (first :: text))
      (names : Names (first :: text) name) : TagText markers (first :: text) (.leaf .name name)
  | triple {text : List Char} {name : String} (clear : ClearOfBrace markers.closing text)
      (names : Names text name) : TagText markers ('{' :: (text ++ ['}'])) (.leaf .triple name)
  | redelimit {next : Markers} {text : List Char} (written : RedelimitText next text) :
      TagText markers ('=' :: text) (.redelimit next)

/-- The body of a tag, which may start with blanks. -/
def TagBody (markers : Markers) (body : List Char) (content : TagContent) : Prop :=
  ∃ lead text, Blank lead ∧ body = lead ++ text ∧ TagText markers text content

namespace TagText

variable {markers : Markers} {text : List Char} {content : TagContent}

theorem exists_head (form : TagText markers text content) :
    ∃ first rest, text = first :: rest ∧ isBlank first = false := by
  cases form with
  | @verbatim sigil kind text kept clear =>
      refine ⟨_, _, rfl, ?_⟩
      rw [verbatimKind?.eq_def] at kept
      split at kept <;> cases kept <;> decide
  | @named sigil content text name made clear names =>
      refine ⟨_, _, rfl, ?_⟩
      rw [namedContent?.eq_def] at made
      split at made <;> cases made <;> decide
  | bare plain inked clear names => exact ⟨_, _, rfl, inked⟩
  | triple clear names => exact ⟨_, _, rfl, by decide⟩
  | redelimit written => exact ⟨_, _, rfl, by decide⟩

theorem inked (form : TagText markers text content) (rest : List Char) : Inked (text ++ rest) := by
  rcases form.exists_head with ⟨first, tail, equal, ink⟩
  subst equal
  intro character member
  rw [List.cons_append, List.head?_cons, Option.mem_some_iff] at member
  subst member
  exact ink

end TagText

end Mustache
