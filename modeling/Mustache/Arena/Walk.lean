import Mustache.Arena
import Mustache.Rendering

namespace Mustache

/-! Walks over the tags of an arena by their numbers. Nothing keeps a number from having no tag,
or a tag from being among those that it holds; then a walk comes to nothing. -/

/-! ## The text of a tag -/

namespace Arena

/-- What is written between and around the marks of a tag and of all that it holds. -/
def writeTag (arena : Arena) (number : Nat) : Option (List Char) := do
  let tag ← arena.tags[number]?
  match tag.kind with
  | .plain => return tag.text.toList
  | .leaf _ => return tag.markers.around tag.body.toList
  | .group _ =>
    let inside ← tag.children.mapM fun child => arena |>.writeTag child
    return tag.markers.around tag.body.toList ++ inside.flatten ++
      (tag.closeMarkers.getD tag.markers).around tag.closeBody.toList
partial_fixpoint

/-- The source of the tag of a number, with all that it holds and its closing tag. -/
def tagSource (arena : Arena) (number : Nat) : Option String :=
  (arena.writeTag number).map String.ofList

def toSource (arena : Arena) : Option String := do
  let roots ← arena.roots.mapM arena.writeTag
  return String.ofList roots.flatten

end Arena

/-! ## Rendering a tag -/

/-- A step of a rendering, which may come to nothing. -/
abbrev Venture (State : Type) := ExceptT Error (StateT (Progress State) Option)

/-- A step of a rendering always comes to an end. -/
def Rendering.venture {State Result : Type} (step : Rendering State Result) :
    Venture State Result := fun progress =>
  match step progress with
  | .ok result progress => some (.ok result, progress)
  | .error error progress => some (.error error, progress)

namespace Arena

open Rendering

variable {State Lambda : Type}

/-- Render the tag of a number with all that it holds. -/
def renderTag (arena : Arena) (surroundings : Surroundings State Lambda)
    (including : String → Scopes Lambda → Rendering State Unit) (scopes : Scopes Lambda)
    (number : Nat) : Venture State Unit := do
  let tag ← arena.tags[number]?
  match tag.kind with
  | .plain => (writeRaw tag.text).venture
  | .leaf .name => (write (surroundings.textOf (scopes.lookup tag.text) scopes)).venture
  | .leaf .unescaped => (writeRaw (surroundings.textOf (scopes.lookup tag.text) scopes)).venture
  | .leaf .triple => (writeRaw (surroundings.textOf (scopes.lookup tag.text) scopes)).venture
  | .leaf .comment => return
  | .leaf .pragma => return
  | .leaf .redelimit => return
  | .leaf .inclusion =>
    (consult surroundings.host).venture
    (including tag.text scopes).venture
  | .group .inverted =>
    (consult surroundings.host).venture
    if (scopes.lookup tag.text).isFalsy then
      tag.children.forM fun child => arena |>.renderTag surroundings including scopes child
  | .group .section =>
    (consult surroundings.host).venture
    match scopes.lookup tag.text with
    | .map entries =>
      unless entries.isEmpty do
        tag.children.forM fun child =>
          arena |>.renderTag surroundings including (scopes.bind entries) child
    | .list items =>
      items.forM fun item => tag.children.forM fun child =>
        arena |>.renderTag surroundings including (scopes.bindElement item) child
    | .lambda lambda =>
      let text ← arena.tagSource number
      (writeRaw (surroundings.call lambda text scopes)).venture
    | value =>
      if value.isTruthy then
        tag.children.forM fun child =>
          arena |>.renderTag surroundings including scopes.child child
partial_fixpoint

/-- Render the tags that stand in no section. -/
def renderRoots (arena : Arena) (surroundings : Surroundings State Lambda)
    (including : String → Scopes Lambda → Rendering State Unit) (scopes : Scopes Lambda) :
    Venture State Unit :=
  arena.roots.forM (arena.renderTag surroundings including scopes)

end Arena

end Mustache
