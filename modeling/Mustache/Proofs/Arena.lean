import Mustache.Arena

namespace Mustache

/-! The arena while sections are open. Open sections and the nodes built so far, as a forest is
assembled from them, determine which tags are in the arena and how they refer to each other. -/

/-! ## More nodes -/

namespace Node

theorem forestPragmas_append (forest more : List Node) :
    forestPragmas (forest ++ more) = forestPragmas forest ++ forestPragmas more := by
  induction forest with
  | nil => rfl
  | cons head tail induction =>
      simp only [List.cons_append, forestPragmas, induction, List.append_assoc]

theorem forestOutline_append (parent : Option Nat) (first : Nat) (forest more : List Node) :
    forestOutline parent first (forest ++ more) =
      forestOutline parent first forest ++
        forestOutline parent (first + forestCount forest) more := by
  induction forest generalizing first with
  | nil => rfl
  | cons head tail induction =>
      simp only [List.cons_append, forestOutline, forestCount, induction, List.append_assoc,
        Nat.add_assoc]

end Node

namespace Forest

theorem rootsFrom_append (first : Nat) (forest more : List Node) :
    rootsFrom first (forest ++ more) =
      rootsFrom first forest ++ rootsFrom (first + Node.forestCount forest) more := by
  induction forest generalizing first with
  | nil => rfl
  | cons head tail induction =>
      simp only [List.cons_append, rootsFrom, Node.forestCount, induction, Nat.add_assoc]

/-! ## Numbers -/

variable {frames : List Frame} {nodes : List Node} {node : Node} {frame : Frame}

/-- The number of the first node in the innermost open section. -/
def firstIn : List Frame → Nat
  | [] => 0
  | frame :: frames => firstIn frames + Node.forestCount frame.siblings.reverse + 1

/-- The number that the next tag gets. -/
def next (frames : List Frame) (nodes : List Node) : Nat :=
  firstIn frames + Node.forestCount nodes.reverse

/-- The number of the innermost open section. -/
def group? : List Frame → Option Nat
  | [] => none
  | frame :: frames => some (next frames frame.siblings)

/-- The numbers of the nodes that stand in the innermost open section. -/
def numbers (frames : List Frame) (nodes : List Node) : List Nat :=
  rootsFrom (firstIn frames) nodes.reverse

/-- The same with the number of the next tag. -/
def numbersWith (frames : List Frame) (nodes : List Node) : List Nat :=
  numbers frames nodes ++ [next frames nodes]

/-- The roots of the arena, where the innermost open section has the given children. -/
def rootsOf : List Frame → List Nat → List Nat
  | [], children => children
  | frame :: frames, _ => rootsOf frames (numbersWith frames frame.siblings)

/-- The open sections with the offsets of their tags. -/
def groups : List Frame → List (Nat × Nat)
  | [] => []
  | frame :: frames => (next frames frame.siblings, frame.offset) :: groups frames

def pragmasOf : List Frame → List Node → List Pragma
  | [], nodes => Node.forestPragmas nodes.reverse
  | frame :: frames, nodes => pragmasOf frames frame.siblings ++ Node.forestPragmas nodes.reverse

theorem numbers_cons : numbers frames (node :: nodes) = numbersWith frames nodes := by
  rw [numbers, List.reverse_cons, rootsFrom_append]
  rfl

theorem pragmasOf_cons :
    pragmasOf frames (node :: nodes) = pragmasOf frames nodes ++ node.pragmas := by
  cases frames <;> simp [pragmasOf, Node.forestPragmas_append, Node.forestPragmas]

theorem pragmasOf_of_open : pragmasOf (frame :: frames) [] = pragmasOf frames frame.siblings :=
  List.append_nil _

theorem pragmasOf_of_closed {closeBody : String} {markers : Markers} :
    pragmasOf (frame :: frames) nodes =
      pragmasOf frames (.group frame.kind frame.name frame.body frame.markers nodes.reverse
        closeBody markers :: frame.siblings) := by
  rw [pragmasOf_cons]
  rfl

theorem head?_groups : (groups frames).head?.map Prod.fst = group? frames := by
  cases frames <;> rfl

/-! ## Tags -/

/-- The tag of an open section. How its closing tag is written is not known yet. -/
def Frame.tag (frame : Frame) (parent : Option Nat) (children : List Nat) : Tag :=
  { Tag.start (.group frame.kind) frame.name frame.markers parent with
    body := frame.body, children }

/-- The tags of the nodes that stand in the innermost open section, and of all nodes in them. -/
def tagsIn (frames : List Frame) (nodes : List Node) : List Tag :=
  (Node.forestOutline (group? frames) (firstIn frames) nodes.reverse).map OutlineItem.tag

/-- The tags in front of these, where the innermost open section has the given children. -/
def tagsAround : List Frame → List Nat → List Tag
  | [], _ => []
  | frame :: frames, children =>
    tagsAround frames (numbersWith frames frame.siblings) ++ tagsIn frames frame.siblings ++
      [frame.tag (group? frames) children]

def tags (frames : List Frame) (nodes : List Node) : List Tag :=
  tagsAround frames (numbers frames nodes) ++ tagsIn frames nodes

/-- The tags where the next one belongs to the innermost open section already. -/
def tagsBefore (frames : List Frame) (nodes : List Node) : List Tag :=
  tagsAround frames (numbersWith frames nodes) ++ tagsIn frames nodes

theorem length_tagsIn : (tagsIn frames nodes).length = Node.forestCount nodes.reverse := by
  rw [tagsIn, List.length_map, Node.length_forestOutline]

theorem length_tagsAround (frames : List Frame) (children : List Nat) :
    (tagsAround frames children).length = firstIn frames := by
  induction frames generalizing children with
  | nil => rfl
  | cons frame frames induction =>
      simp only [tagsAround, firstIn, List.length_append, induction, length_tagsIn,
        List.length_singleton]

theorem length_tags : (tags frames nodes).length = next frames nodes := by
  rw [tags, List.length_append, length_tagsAround, length_tagsIn, next]

theorem length_tagsBefore : (tagsBefore frames nodes).length = next frames nodes := by
  rw [tagsBefore, List.length_append, length_tagsAround, length_tagsIn, next]

theorem tags_cons : tags frames (node :: nodes) =
    tagsBefore frames nodes ++
      (node.outline (group? frames) (next frames nodes)).map OutlineItem.tag := by
  rw [tags, numbers_cons, tagsIn, List.reverse_cons, Node.forestOutline_append, List.map_append,
    ← List.append_assoc, Node.forestOutline, Node.forestOutline, List.append_nil]
  rfl

/-- The tag of an open section stands between what is in front of it and what is in it. -/
theorem tags_of_open : tags (frame :: frames) nodes =
    tagsBefore frames frame.siblings ++
      frame.tag (group? frames) (numbers (frame :: frames) nodes) ::
        tagsIn (frame :: frames) nodes := by
  rw [tags, tagsAround, List.append_assoc _ [_]]
  rfl

theorem tagsBefore_of_open : tagsBefore (frame :: frames) nodes =
    tagsBefore frames frame.siblings ++
      frame.tag (group? frames) (numbersWith (frame :: frames) nodes) ::
        tagsIn (frame :: frames) nodes := by
  rw [tagsBefore, tagsAround, List.append_assoc _ [_]]
  rfl

end Forest

end Mustache
