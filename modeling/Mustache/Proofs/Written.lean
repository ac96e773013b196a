import Mathlib.Data.List.DropRight
import Mustache.Proofs.Subtree

namespace Mustache

/-! What the reader has made sure of at every node of a template: a text is not empty,
a tag is written in one of the forms of its kind, and its name is trimmed. -/

open Text

namespace Text

/-- Nothing is left to trim of a trimmed text. -/
theorem trimBlanks_trimBlanks (text : List Char) :
    trimBlanks (trimBlanks text) = trimBlanks text := by
  change (((text.dropWhile isBlank).rdropWhile isBlank).dropWhile isBlank).rdropWhile isBlank =
    (text.dropWhile isBlank).rdropWhile isBlank
  have kept : ((text.dropWhile isBlank).rdropWhile isBlank).dropWhile isBlank =
      (text.dropWhile isBlank).rdropWhile isBlank := by
    have begins : (text.dropWhile isBlank).rdropWhile isBlank <+: text.dropWhile isBlank :=
      List.rdropWhile_prefix isBlank _
    cases shape : (text.dropWhile isBlank).rdropWhile isBlank with
    | nil => rfl
    | cons first rest =>
        rw [shape] at begins
        rcases begins with ⟨behind, equal⟩
        have stops := List.head?_dropWhile_not isBlank text
        rw [← equal] at stops
        exact List.dropWhile_cons_of_neg (by simpa using stops)
  rw [kept, List.rdropWhile_idempotent]

end Text

theorem Names.trimmed {text : List Char} {name : String} (names : Names text name) :
    name ≠ "" ∧ trimBlanks name.toList = name.toList := by
  rcases names with ⟨trimmed, named⟩
  exact ⟨named, by rw [← trimmed, trimBlanks_trimBlanks]⟩

namespace Node

/-- The name that a tag looks up, includes or closes by. -/
def name? : Node → Option String
  | .plain _ _ | .leaf .comment _ _ _ | .leaf .pragma _ _ _ | .leaf .redelimit _ _ _ => none
  | .leaf _ name _ _ | .group _ name _ _ _ _ _ => some name

/-- The node is written as a node of its kind can be. -/
def Written : Node → Prop
  | .plain text _ => text ≠ ""
  | .leaf kind text body markers =>
    ∃ content : TagContent, content.leaf? = some (kind, text) ∧
      TagBody markers body.toList content
  | .group kind name body markers _ closeBody closeMarkers =>
    TagBody markers body.toList (.opening kind name) ∧
      TagBody closeMarkers closeBody.toList (.closing name)

theorem written_of_spelled {node : Node} {lexemes : List Lexeme} {markers : Markers}
    (spelled : node.Spelled lexemes) (legible : Legible markers lexemes) : node.Written := by
  cases node with
  | plain text own =>
      cases spelled
      cases legible with
      | plain nonempty ended follows => exact nonempty
  | leaf kind text body own =>
      rcases spelled with ⟨content, stands, rfl⟩
      cases legible with
      | tag form follows => exact ⟨content, stands, form⟩
  | group kind name body own children closeBody closeMarkers =>
      rcases spelled with ⟨inner, -, rfl⟩
      cases legible with
      | tag form follows =>
          rcases follows.drop with ⟨later, closes⟩
          cases closes with
          | tag closeForm none => exact ⟨form, closeForm⟩

end Node

/-- The tag that a text with a name stands in has trimmed it. -/
theorem TagBody.trimmed_of_leaf {markers : Markers} {body : List Char} {content : TagContent}
    {kind : LeafKind} {text body' name : String} {own : Markers}
    (form : TagBody markers body content) (stands : content.leaf? = some (kind, text))
    (named : (Node.leaf kind text body' own).name? = some name) :
    name ≠ "" ∧ trimBlanks name.toList = name.toList := by
  rcases form with ⟨lead, written, -, -, form⟩
  cases form with
  | verbatim kept clear =>
      cases stands
      rw [verbatimKind?.eq_def] at kept
      split at kept <;> cases kept <;> cases named
  | @named sigil content written said made clear names =>
      rw [namedContent?.eq_def] at made
      split at made <;> cases made <;> cases stands <;> cases named <;> exact names.trimmed
  | bare plain inked clear names =>
      cases stands
      cases named
      exact names.trimmed
  | triple clear names =>
      cases stands
      cases named
      exact names.trimmed
  | redelimit written =>
      cases stands
      cases named

theorem TagBody.trimmed_of_opening {markers : Markers} {body : List Char} {kind : GroupKind}
    {name : String} (form : TagBody markers body (.opening kind name)) :
    name ≠ "" ∧ trimBlanks name.toList = name.toList := by
  rcases form with ⟨lead, written, -, -, form⟩
  generalize said : TagContent.opening kind name = content at form
  cases form with
  | @named sigil content written name made clear names =>
      rw [namedContent?.eq_def] at made
      split at made <;> cases made <;> cases said <;> exact names.trimmed
  | verbatim | bare | triple | redelimit => cases said

theorem Node.Written.trimmed {node : Node} (written : node.Written) {name : String}
    (named : node.name? = some name) : name ≠ "" ∧ trimBlanks name.toList = name.toList := by
  cases node with
  | plain text markers => cases named
  | leaf kind text body markers =>
      rcases written with ⟨content, stands, form⟩
      exact form.trimmed_of_leaf stands named
  | group kind said body markers children closeBody closeMarkers =>
      cases named
      exact written.1.trimmed_of_opening

/-- The lexemes of an item of a template can be read where its own marks are in force. -/
theorem Template.exists_lexemes_of_parse {name source : String} {template : Template}
    (parsed : parse name source = .ok template) {item : OutlineItem}
    (member : item ∈ template.outline) :
    ∃ lexemes, item.node.Spelled lexemes ∧ Legible item.node.markers lexemes := by
  rcases parse_eq_ok_iff.mp parsed with ⟨-, whole, spelled, legible, -⟩
  rcases Node.forest_exists_part spelled member with ⟨before, part, behind, rfl, found⟩
  rcases legible.take.drop with ⟨markers, readable⟩
  exact ⟨part, found, Node.legible_of_spelled found readable⟩

theorem Template.written_of_parse {name source : String} {template : Template}
    (parsed : parse name source = .ok template) {item : OutlineItem}
    (member : item ∈ template.outline) : item.node.Written := by
  rcases template.exists_lexemes_of_parse parsed member with ⟨lexemes, spelled, legible⟩
  exact Node.written_of_spelled spelled legible

end Mustache
