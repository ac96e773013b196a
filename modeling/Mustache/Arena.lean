import Mustache.Outline

namespace Mustache

/-! The tags of a template in one array, in which they refer to each other by their numbers. -/

inductive TagKind where
  | plain
  | leaf (kind : LeafKind)
  | group (kind : GroupKind)
deriving DecidableEq, Repr, Inhabited

/-- The shortest body of a tag with a text. -/
def TagKind.shortBody : TagKind → List Char → List Char
  | .plain, _ => []
  | .leaf .name, text => text
  | .leaf .unescaped, text => '&' :: text
  | .leaf .triple, text => '\x7b' :: text ++ ['\x7d']
  | .leaf .comment, text => '!' :: text
  | .leaf .inclusion, text => '>' :: text
  | .leaf .pragma, text => '%' :: text
  | .leaf .redelimit, text => '=' :: text ++ ['=']
  | .group .section, text => '#' :: text
  | .group .inverted, text => '^' :: text

/-- The shortest body of the closing tag, if there is one. -/
def TagKind.shortCloseBody : TagKind → List Char → List Char
  | .group _, text => '/' :: text
  | .plain, _ | .leaf _, _ => []

structure Tag where
  kind : TagKind
  text : String
  body : String
  /-- What is written in the closing tag of a section. -/
  closeBody : String
  markers : Markers
  parent : Option Nat
  children : List Nat
  /-- The marks around the closing tag of a section, once it is closed. -/
  closeMarkers : Option Markers
deriving DecidableEq, Inhabited

/-- A tag as it is put into an arena. How it is written is not known yet. -/
def Tag.start (kind : TagKind) (text : String) (markers : Markers) (parent : Option Nat) : Tag where
  kind := kind
  text := text
  body := String.ofList (kind.shortBody text.toList)
  closeBody := String.ofList (kind.shortCloseBody text.toList)
  markers := markers
  parent := parent
  children := []
  closeMarkers := none

/-- What is written in the tag, or in the closing tag of its section. -/
def Tag.setBody (tag : Tag) (closes : Bool) (body : String) : Tag :=
  if closes then { tag with closeBody := body } else { tag with body }

structure Arena where
  name : String
  tags : Array Tag
  roots : List Nat
  pragmas : List Pragma
deriving DecidableEq

/-- The tag of an item. A text has no body, and only a section has closing parts. -/
def OutlineItem.tag (item : OutlineItem) : Tag :=
  match item.node with
  | .plain text markers =>
    ⟨.plain, text, "", "", markers, item.parent, item.children, none⟩
  | .leaf kind text body markers =>
    ⟨.leaf kind, text, body, "", markers, item.parent, item.children, none⟩
  | .group kind name body markers _ closeBody closeMarkers =>
    ⟨.group kind, name, body, closeBody, markers, item.parent, item.children, some closeMarkers⟩

def Template.arena (template : Template) : Arena :=
  ⟨template.name, (template.outline.map OutlineItem.tag).toArray, template.roots,
    template.pragmas⟩

end Mustache
