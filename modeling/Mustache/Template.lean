import Mustache.Node
import Mustache.Token.Sequence

namespace Mustache

/-! A template is the forest of its source under a name. Opening and closing
tags have to match: a closing tag closes the section opened last, by its name. -/

structure Template where
  name : String
  forest : Forest

/-- A problem of a source under the name and at the place at which it is told. -/
structure Fault where
  template : String
  position : Position
  problem : Problem
deriving DecidableEq, Repr

namespace Fault

def message (fault : Fault) : String :=
  "Syntax error in " ++ fault.template ++ " at line " ++ toString fault.position.line ++
    ", column " ++ toString fault.position.column ++ ": " ++ fault.problem.message

end Fault

namespace Forest

/-- A section that is still open, with the nodes before it, the last one first. -/
structure Frame where
  kind : GroupKind
  name : String
  body : String
  markers : Markers
  offset : Nat
  siblings : List Node

/-- Build the forest from the rest of the tokens. `open` are the sections that
are still open, the innermost first, and `nodes` the nodes of the innermost one
so far, the last one first. A tag that does not match is told before a defect
behind it. -/
def assemble (defect : Option Defect) :
    List Token → List Frame → List Node → Except Defect Forest
  | [], frames, nodes =>
    match defect, frames with
    | some defect, _ => .error defect
    | none, frame :: _ => .error ⟨frame.offset, .unterminatedSection frame.name⟩
    | none, [] => .ok nodes.reverse
  | .plain text markers :: rest, frames, nodes =>
    assemble defect rest frames (.plain text markers :: nodes)
  | .tag (.leaf kind text) body markers _ :: rest, frames, nodes =>
    assemble defect rest frames (.leaf kind text body markers :: nodes)
  | .tag (.redelimit next) body markers _ :: rest, frames, nodes =>
    assemble defect rest frames
      (.leaf .redelimit (String.ofList next.toChars) body markers :: nodes)
  | .tag (.opening kind name) body markers span :: rest, frames, nodes =>
    assemble defect rest (⟨kind, name, body, markers, span.offset, nodes⟩ :: frames) []
  | .tag (.closing name) _ _ span :: _, [], _ =>
    .error ⟨span.offset, .unexpectedClosing name⟩
  | .tag (.closing name) body markers span :: rest, frame :: frames, nodes =>
    if frame.name = name then
      assemble defect rest frames
        (.group frame.kind name frame.body frame.markers nodes.reverse body markers ::
          frame.siblings)
    else .error ⟨span.offset, .closingMismatch frame.name name⟩

def ofTokens (sequence : TokenSequence) : Except Defect Forest :=
  assemble sequence.defect sequence.tokens [] []

end Forest

namespace Template

def anonymous : String := "<string>"

/-- The template of a source, or its first fault. -/
def parse (name source : String) : Except Fault Template :=
  let characters := source.toList
  match Forest.ofTokens (.read characters) with
  | .ok forest => .ok ⟨name, forest⟩
  | .error defect =>
    .error ⟨name, (Cursor.start characters).position defect.offset, defect.problem⟩

def toSource (template : Template) : String :=
  String.ofList (Node.forestToChars template.forest)

/-- Pragmas in the order in which they are written. -/
def pragmas (template : Template) : List Pragma :=
  Node.forestPragmas template.forest

/-- Number of its texts and tags; the two tags of a section count once. -/
def size (template : Template) : Nat :=
  Node.forestCount template.forest

end Template

end Mustache
