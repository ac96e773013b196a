import Mustache.Proofs.Nesting

namespace Mustache

/-! Reading what was written. A draft says what a tag is for and not how it is
written; the tree of a draft has the plainest body for each tag, between the marks
that the tags before it have set. A forest of drafts whose texts do not run into
the marks around them is read back from its source as just that tree. -/

open Text

inductive Draft where
  | plain (text : String)
  | leaf (kind : LeafKind) (text : String)
  /-- Other marks, for all that is written behind. -/
  | redelimit (next : Markers)
  | group (kind : GroupKind) (name : String) (children : List Draft)

/-! ## The tree of a draft -/

/-- The text of a tag behind its sigil; three braces are closed by one more. -/
def LeafKind.bodyOf (text : List Char) : LeafKind → List Char
  | .name => text
  | .unescaped => '&' :: text
  | .triple => '{' :: (text ++ ['}'])
  | .comment => '!' :: text
  | .inclusion => '>' :: text
  | .pragma => '%' :: text
  | .redelimit => '=' :: (text ++ ['='])

def GroupKind.sigil : GroupKind → Char
  | .section => '#'
  | .inverted => '^'

namespace Draft

mutual
/-- The marks in force behind a draft. Those that are set inside a section stay
in force behind it. -/
def next (markers : Markers) : Draft → Markers
  | plain _ | leaf _ _ => markers
  | redelimit next => next
  | group _ _ children => nextOfForest markers children

def nextOfForest (markers : Markers) : List Draft → Markers
  | [] => markers
  | draft :: rest => nextOfForest (draft.next markers) rest
end

mutual
def node (markers : Markers) : Draft → Node
  | plain text => .plain text markers
  | leaf kind text => .leaf kind text (String.ofList (kind.bodyOf text.toList)) markers
  | redelimit next =>
    .leaf .redelimit (String.ofList next.toChars)
      (String.ofList (LeafKind.redelimit.bodyOf next.toChars)) markers
  | group kind name children =>
    .group kind name (String.ofList (kind.sigil :: name.toList)) markers
      (nodes markers children) (String.ofList ('/' :: name.toList))
      (nextOfForest markers children)

def nodes (markers : Markers) : List Draft → List Node
  | [] => []
  | draft :: rest => draft.node markers :: nodes (draft.next markers) rest
end

/-- The template of drafts, which starts with the standard marks. -/
def template (name : String) (drafts : List Draft) : Template :=
  ⟨name, nodes .standard drafts⟩

/-! ## Drafts that can be read -/

/-- A plain text ends at the opening mark of the tag behind it. At the end of a
section that tag is the closing one; at the end of the source there is none. -/
def PlainEnds (markers : Markers) (closed : Bool) (text : String) : List Draft → Prop
  | [] =>
    if closed then Clear markers.opening text.toList else ¬ markers.opening <:+: text.toList
  | plain _ :: _ => False
  | _ :: _ => Clear markers.opening text.toList

/-- The text of a tag ends at the closing mark. Names have no blanks around them,
and the bare ones do not start like another tag. -/
def LeafFits (markers : Markers) (text : String) : LeafKind → Prop
  | .name => Names text.toList text ∧ (∀ first ∈ text.toList.head?, isSigil first = false) ∧
      Clear markers.closing text.toList
  | .unescaped | .inclusion => Names text.toList text ∧ Clear markers.closing text.toList
  | .triple => Names text.toList text ∧ ClearOfBrace markers.closing text.toList
  | .comment | .pragma => Clear markers.closing text.toList
  -- New marks are drafts of their own.
  | .redelimit => False

mutual
/-- A draft that can be read in front of its later siblings, which a closing tag
follows or the end of the source. -/
def Fits (markers : Markers) (closed : Bool) (siblings : List Draft) : Draft → Prop
  | plain text => text ≠ "" ∧ PlainEnds markers closed text siblings
  | leaf kind text => LeafFits markers text kind
  | redelimit next => next.Sound
  | group _ name children =>
    Names name.toList name ∧ Clear markers.closing name.toList ∧
      ForestFits markers true children ∧
      Clear (nextOfForest markers children).closing name.toList

def ForestFits (markers : Markers) (closed : Bool) : List Draft → Prop
  | [] => True
  | draft :: rest =>
    draft.Fits markers closed rest ∧ ForestFits (draft.next markers) closed rest
end

instance (markers : Markers) (closed : Bool) (text : String) :
    (siblings : List Draft) → Decidable (PlainEnds markers closed text siblings)
  | [] =>
    match closed with
    | true => inferInstanceAs (Decidable (Clear markers.opening text.toList))
    | false => decidable_of_iff (splitAt? markers.opening text.toList = none) splitAt?_eq_none_iff
  | plain _ :: _ => isFalse id
  | leaf _ _ :: _ | redelimit _ :: _ | group _ _ _ :: _ =>
    inferInstanceAs (Decidable (Clear markers.opening text.toList))

instance (markers : Markers) (text : String) :
    (kind : LeafKind) → Decidable (LeafFits markers text kind)
  | .name =>
    have : Decidable (∀ first ∈ text.toList.head?, isSigil first = false) :=
      decidable_of_iff (text.toList.head?.all (!isSigil ·) = true) (by simp [Option.all_eq_true])
    inferInstanceAs (Decidable (_ ∧ _))
  | .unescaped | .inclusion | .triple => inferInstanceAs (Decidable (_ ∧ _))
  | .comment | .pragma => inferInstanceAs (Decidable (Clear _ _))
  | .redelimit => isFalse id

mutual
def decideFits (markers : Markers) (closed : Bool) (siblings : List Draft) :
    (draft : Draft) → Decidable (draft.Fits markers closed siblings)
  | plain _ => inferInstanceAs (Decidable (_ ∧ _))
  | leaf kind text => inferInstanceAs (Decidable (LeafFits markers text kind))
  | redelimit next => inferInstanceAs (Decidable next.Sound)
  | group _ _ children =>
    have := decideForestFits markers true children
    inferInstanceAs (Decidable (_ ∧ _ ∧ _ ∧ _))

def decideForestFits (markers : Markers) (closed : Bool) :
    (drafts : List Draft) → Decidable (ForestFits markers closed drafts)
  | [] => isTrue trivial
  | draft :: rest =>
    have := decideFits markers closed rest draft
    have := decideForestFits (draft.next markers) closed rest
    inferInstanceAs (Decidable (_ ∧ _))
end

instance (markers : Markers) (closed : Bool) (drafts : List Draft) :
    Decidable (ForestFits markers closed drafts) :=
  decideForestFits markers closed drafts

/-! ## The lexemes of a draft -/

mutual
def lexemes (markers : Markers) : Draft → List Lexeme
  | plain text => [.plain text markers]
  | leaf kind text =>
    [.tag (.leaf kind text) (String.ofList (kind.bodyOf text.toList)) markers]
  | redelimit next =>
    [.tag (.redelimit next) (String.ofList (LeafKind.redelimit.bodyOf next.toChars)) markers]
  | group kind name children =>
    .tag (.opening kind name) (String.ofList (kind.sigil :: name.toList)) markers ::
      (forestLexemes markers children ++
        [.tag (.closing name) (String.ofList ('/' :: name.toList)) (nextOfForest markers children)])

def forestLexemes (markers : Markers) : List Draft → List Lexeme
  | [] => []
  | draft :: rest => draft.lexemes markers ++ forestLexemes (draft.next markers) rest
end

mutual
theorem spelled_node (draft : Draft) (markers : Markers) :
    (draft.node markers).Spelled (draft.lexemes markers) := by
  cases draft with
  | plain text => rfl
  | leaf kind text => exact ⟨_, rfl, rfl⟩
  | redelimit next => exact ⟨_, rfl, rfl⟩
  | group kind name children => exact ⟨_, spelled_nodes children markers, rfl⟩

theorem spelled_nodes (drafts : List Draft) (markers : Markers) :
    Node.ForestSpelled (nodes markers drafts) (forestLexemes markers drafts) := by
  cases drafts with
  | nil => rfl
  | cons draft rest =>
      exact ⟨_, _, spelled_node draft markers, spelled_nodes rest (draft.next markers), rfl⟩
end

/-! ## The written tags have the form of tags -/

/-- A name without blanks around it starts with a character that is not blank. -/
theorem exists_head_of_names {name : String} (names : Names name.toList name) :
    ∃ first rest, name.toList = first :: rest ∧ isBlank first = false := by
  rcases names with ⟨trimmed, named⟩
  cases chars : name.toList with
  | nil => exact absurd (String.toList_eq_nil_iff.mp chars) named
  | cons first rest =>
      refine ⟨first, rest, rfl, ?_⟩
      rw [chars] at trimmed
      by_cases blank : isBlank first = true
      · have shorter := congrArg List.length trimmed
        have bound : (rest.dropWhile isBlank).length ≤ rest.length :=
          (List.dropWhile_sublist isBlank).length_le
        have within : ((rest.dropWhile isBlank).reverse.dropWhile isBlank).length ≤
            (rest.dropWhile isBlank).reverse.length :=
          (List.dropWhile_sublist isBlank).length_le
        rw [trimBlanks, List.dropWhile_cons_of_pos blank, List.length_reverse] at shorter
        rw [List.length_reverse] at within
        rw [List.length_cons] at shorter
        omega
      · simpa using blank

theorem tagBody_of_leafFits {markers : Markers} {text : String} {kind : LeafKind}
    (fits : LeafFits markers text kind) :
    TagBody markers (kind.bodyOf text.toList) (.leaf kind text) := by
  refine ⟨[], _, blank_nil, rfl, ?_⟩
  cases kind with
  | name =>
      rcases fits with ⟨names, plain, clear⟩
      rcases exists_head_of_names names with ⟨first, rest, shape, inked⟩
      change TagText markers text.toList (.leaf .name text)
      rw [shape] at plain clear ⊢
      refine .bare (plain first rfl) inked clear ?_
      rw [← shape]
      exact names
  | unescaped => exact .named (rfl : namedContent? '&' = _) fits.2 fits.1
  | inclusion => exact .named (rfl : namedContent? '>' = _) fits.2 fits.1
  | triple => exact .triple fits.2 fits.1
  | comment =>
      have form := TagText.verbatim (rfl : verbatimKind? '!' = some .comment) fits
      rwa [String.ofList_toList] at form
  | pragma =>
      have form := TagText.verbatim (rfl : verbatimKind? '%' = some .pragma) fits
      rwa [String.ofList_toList] at form
  | redelimit => cases fits

theorem tagBody_of_names {markers : Markers} {sigil : Char} {content : String → TagContent}
    {name : String} (made : namedContent? sigil = some content) (names : Names name.toList name)
    (clear : Clear markers.closing name.toList) :
    TagBody markers (String.ofList (sigil :: name.toList)).toList (content name) := by
  rw [String.toList_ofList]
  exact ⟨[], _, blank_nil, rfl, .named made clear names⟩

theorem tagBody_redelimit {markers next : Markers} (sound : next.Sound) :
    TagBody markers (LeafKind.redelimit.bodyOf next.toChars) (.redelimit next) := by
  refine ⟨[], _, blank_nil, rfl, .redelimit ?_⟩
  have space : Blank [' '] := by
    intro character member
    rw [List.mem_singleton] at member
    subst member
    decide
  have written : RedelimitText next
      ([] ++ (next.opening ++ ([' '] ++ (next.closing ++ ([] ++ (['='] ++ [])))))) :=
    .intro sound blank_nil space blank_nil blank_nil (by decide) (.inl rfl)
  simpa [Markers.toChars] using written

/-! ## Written drafts are legible -/

/-- What is written behind a forest: the closing tag around it, or nothing. -/
def Ends (closed : Bool) (tail : List Lexeme) : Prop :=
  if closed then ∃ content body markers rest, tail = .tag content body markers :: rest
  else tail = []

theorem endsBefore_of_plainEnds {markers : Markers} {closed : Bool} {text : String}
    {siblings : List Draft} {tail : List Lexeme} (fits : PlainEnds markers closed text siblings)
    (ends : Ends closed tail) :
    EndsBefore markers text (forestLexemes markers siblings ++ tail) := by
  cases siblings with
  | nil =>
      cases closed with
      | true =>
          rcases ends with ⟨content, body, own, rest, rfl⟩
          exact fits
      | false =>
          have nothing : tail = [] := ends
          subst nothing
          exact fits
  | cons sibling rest =>
      cases sibling with
      | plain other => cases fits
      | leaf kind other | redelimit next | group kind name children => exact fits

mutual
theorem legible_of_fits (draft : Draft) {markers : Markers} {closed : Bool}
    {siblings : List Draft} {tail : List Lexeme} (fits : draft.Fits markers closed siblings)
    (ends : Ends closed tail)
    (follows : Legible (draft.next markers) (forestLexemes (draft.next markers) siblings ++ tail)) :
    Legible markers
      (draft.lexemes markers ++ (forestLexemes (draft.next markers) siblings ++ tail)) := by
  cases draft with
  | plain text =>
      rcases fits with ⟨nonempty, fits⟩
      exact .plain nonempty (endsBefore_of_plainEnds fits ends) follows
  | leaf kind text =>
      refine .tag ?_ follows
      rw [String.toList_ofList]
      exact tagBody_of_leafFits fits
  | redelimit next =>
      refine .tag ?_ follows
      rw [String.toList_ofList]
      exact tagBody_redelimit fits
  | group kind name children =>
      rcases fits with ⟨names, clear, inside, closing⟩
      rw [lexemes, List.cons_append, List.append_assoc]
      have opening : namedContent? kind.sigil = some (.opening kind) := by cases kind <;> rfl
      refine .tag (tagBody_of_names opening names clear) ?_
      refine legible_of_forestFits children inside ⟨_, _, _, _, rfl⟩ ?_
      exact .tag (tagBody_of_names (rfl : namedContent? '/' = some .closing) names closing) follows

theorem legible_of_forestFits (drafts : List Draft) {markers : Markers} {closed : Bool}
    {tail : List Lexeme} (fits : ForestFits markers closed drafts) (ends : Ends closed tail)
    (follows : Legible (nextOfForest markers drafts) tail) :
    Legible markers (forestLexemes markers drafts ++ tail) := by
  cases drafts with
  | nil => exact follows
  | cons draft rest =>
      rcases fits with ⟨first, others⟩
      rw [forestLexemes, List.append_assoc]
      exact legible_of_fits draft first ends (legible_of_forestFits rest others ends follows)
end

/-- Drafts that fit are read back from their source, and nothing else is. -/
theorem parse_toSource_template {drafts : List Draft} (fits : ForestFits .standard false drafts)
    (name : String) : Template.parse name (template name drafts).toSource =
      .ok (template name drafts) := by
  have spelled := spelled_nodes drafts .standard
  have legible := legible_of_forestFits drafts fits (rfl : Ends false []) .nil
  rw [List.append_nil] at legible
  refine Template.parse_eq_ok_iff.mpr ⟨rfl, _, spelled, legible, ?_⟩
  rw [Template.toSource, String.toList_ofList]
  exact (Node.forestToChars_of_spelled spelled).symm

/-- The bars that are set inside the section are used to close it and behind it. -/
theorem parse_toSource_template_moved_marks :
    ∃ drafts, ForestFits .standard false drafts ∧
      (template "page" drafts).toSource =
        "a\x7b\x7b#s\x7d\x7d\x7b\x7b=| |=\x7d\x7d|\x7bx\x7d|é|/s||!|" ∧
      Template.parse "page" (template "page" drafts).toSource =
        .ok (template "page" drafts) :=
  ⟨[.plain "a", .group .section "s"
      [.redelimit ⟨['|'], ['|'], by decide, by decide⟩, .leaf .triple "x", .plain "é"],
      .leaf .comment ""],
    by decide, by decide +kernel, parse_toSource_template (by decide) "page"⟩

end Draft

end Mustache
