import Mustache.Template

namespace Mustache

/-! The flat view of a forest: its nodes in the order in which they are written,
numbered from zero, with the links between them. -/

/-- A node with the number of the section around it and the numbers of the nodes
inside it. -/
structure OutlineItem where
  node : Node
  parent : Option Nat
  children : List Nat

namespace Forest

/-- The numbers of the roots of a forest whose first node has the number `first`. -/
def rootsFrom (first : Nat) : List Node → List Nat
  | [] => []
  | node :: rest => first :: rootsFrom (first + node.count) rest

end Forest

mutual
/-- The items of a node with the number `first`. -/
def Node.outline (parent : Option Nat) (first : Nat) : Node → List OutlineItem
  | .group kind name body markers children closeBody closeMarkers =>
    ⟨.group kind name body markers children closeBody closeMarkers, parent,
      Forest.rootsFrom (first + 1) children⟩ ::
      Node.forestOutline (some first) (first + 1) children
  | node => [⟨node, parent, []⟩]

def Node.forestOutline (parent : Option Nat) (first : Nat) : List Node → List OutlineItem
  | [] => []
  | node :: rest =>
    node.outline parent first ++ Node.forestOutline parent (first + node.count) rest
end

namespace Template

/-- All items of a template, each at the place of its number. -/
def outline (template : Template) : List OutlineItem :=
  Node.forestOutline none 0 template.forest

/-- Numbers of the nodes that stand in no section. -/
def roots (template : Template) : List Nat :=
  Forest.rootsFrom 0 template.forest

end Template

mutual
theorem Node.length_outline (parent : Option Nat) (first : Nat) (node : Node) :
    (node.outline parent first).length = node.count := by
  cases node with
  | group kind name body markers children closeBody closeMarkers =>
    simp [Node.outline, Node.count, Node.length_forestOutline]
  | plain | leaf => simp [Node.outline, Node.count]

theorem Node.length_forestOutline (parent : Option Nat) (first : Nat) (forest : List Node) :
    (Node.forestOutline parent first forest).length = Node.forestCount forest := by
  cases forest with
  | nil => rfl
  | cons node rest =>
    simp [Node.forestOutline, Node.forestCount, Node.length_outline,
      Node.length_forestOutline]
end

theorem Template.length_outline (template : Template) :
    template.outline.length = template.size :=
  Node.length_forestOutline none 0 template.forest

end Mustache
