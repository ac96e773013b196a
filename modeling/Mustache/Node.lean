import Mustache.Pragma
import Mustache.Token

namespace Mustache

/-! The tree of a template. A section holds the nodes between its two tags; its
closing tag may be written between other marks than its opening tag. -/

inductive Node where
  | plain (text : String) (markers : Markers)
  | leaf (kind : LeafKind) (text body : String) (markers : Markers)
  | group (kind : GroupKind) (name body : String) (markers : Markers) (children : List Node)
      (closeBody : String) (closeMarkers : Markers)

abbrev Forest := List Node

/-! ## The text of a tree -/

mutual
def Node.toChars : Node → List Char
  | .plain text _ => text.toList
  | .leaf _ _ body markers => markers.around body.toList
  | .group _ _ body markers children closeBody closeMarkers =>
    markers.around body.toList ++ Node.forestToChars children ++
      closeMarkers.around closeBody.toList

def Node.forestToChars : List Node → List Char
  | [] => []
  | node :: rest => node.toChars ++ Node.forestToChars rest
end

def Node.toSource (node : Node) : String :=
  String.ofList node.toChars

/-! ## The pragmas of a tree -/

mutual
/-- Pragmas in the order in which they are written, those inside sections
included. -/
def Node.pragmas : Node → List Pragma
  | .leaf .pragma text _ _ => [Pragma.parse text.toList]
  | .group _ _ _ _ children _ _ => Node.forestPragmas children
  | _ => []

def Node.forestPragmas : List Node → List Pragma
  | [] => []
  | node :: rest => node.pragmas ++ Node.forestPragmas rest
end

/-! ## The number of nodes -/

mutual
def Node.count : Node → Nat
  | .group _ _ _ _ children _ _ => Node.forestCount children + 1
  | _ => 1

def Node.forestCount : List Node → Nat
  | [] => 0
  | node :: rest => node.count + Node.forestCount rest
end

end Mustache
