import Mustache.Outline
import Mustache.Proofs.Nesting

namespace Mustache

/-! A node on its own. The text of a node that is written between the standard
marks is a template of its own with just that node, whatever stands around it;
its numbers are those of the whole template, counted from the node on. -/

/-- The marks that a node is written with; a section has other ones where it is
closed under them. -/
def Node.markers : Node → Markers
  | .plain _ markers | .leaf _ _ _ markers | .group _ _ _ markers _ _ _ => markers

/-! ## Legible parts -/

theorem Legible.drop {before rest : List Lexeme} {markers : Markers}
    (legible : Legible markers (before ++ rest)) : ∃ later, Legible later rest := by
  induction before generalizing markers with
  | nil => exact ⟨markers, legible⟩
  | cons lexeme before induction =>
      cases legible with
      | plain nonempty ended follows => exact induction follows
      | tag form follows => exact induction follows

theorem EndsBefore.take {markers : Markers} {text : String} {front back : List Lexeme}
    (ended : EndsBefore markers text (front ++ back)) : EndsBefore markers text front := by
  cases front with
  | cons lexeme rest => cases lexeme <;> exact ended
  | nil =>
      cases back with
      | nil => exact ended
      | cons lexeme rest =>
          cases lexeme with
          | plain => cases ended
          | tag => exact Text.Clear.not_within ended markers.opening_ne_nil

theorem Legible.take {front back : List Lexeme} {markers : Markers}
    (legible : Legible markers (front ++ back)) : Legible markers front := by
  induction front generalizing markers with
  | nil => exact .nil
  | cons lexeme front induction =>
      cases legible with
      | plain nonempty ended follows => exact .plain nonempty ended.take (induction follows)
      | tag form follows => exact .tag form (induction follows)

/-- The lexemes of a node are legible where its own marks are in force. -/
theorem Node.legible_of_spelled {node : Node} {lexemes : List Lexeme} {markers : Markers}
    (spelled : node.Spelled lexemes) (legible : Legible markers lexemes) :
    Legible node.markers lexemes := by
  cases node with
  | plain text own =>
      rw [Node.Spelled] at spelled
      subst spelled
      cases legible with
      | plain nonempty ended follows => exact .plain nonempty ended follows
  | leaf kind text body own =>
      rcases spelled with ⟨content, -, rfl⟩
      cases legible with
      | tag form follows => exact .tag form follows
  | group kind name body own children closeBody closeMarkers =>
      rcases spelled with ⟨inner, -, rfl⟩
      cases legible with
      | tag form follows => exact .tag form follows

/-! ## Nodes by their numbers -/

/-- The outline of a node stands as a whole in a list of items from the number of
the node on. -/
def OutlineItem.StandsIn (item : OutlineItem) (number : Nat) (items : List OutlineItem)
    (first : Nat) : Prop :=
  ∃ before behind, items = before ++ item.node.outline item.parent (first + number) ++ behind ∧
    before.length = number

theorem OutlineItem.StandsIn.append {item : OutlineItem} {number first : Nat}
    {items : List OutlineItem} (stands : item.StandsIn number items first)
    (others : List OutlineItem) : item.StandsIn number (items ++ others) first := by
  rcases stands with ⟨before, behind, rfl, counted⟩
  exact ⟨before, behind ++ others, by simp, counted⟩

theorem OutlineItem.StandsIn.prepend {item : OutlineItem} {number first : Nat}
    {items : List OutlineItem} (others : List OutlineItem)
    (stands : item.StandsIn number items (first + others.length)) :
    item.StandsIn (others.length + number) (others ++ items) first := by
  rcases stands with ⟨before, behind, rfl, counted⟩
  refine ⟨others ++ before, behind, ?_, ?_⟩
  · simp [Nat.add_assoc]
  · rw [List.length_append, counted]

theorem Node.outline_head (node : Node) (parent : Option Nat) (first : Nat) :
    ∃ item rest, node.outline parent first = item :: rest ∧ item.node = node ∧
      item.parent = parent := by
  cases node <;> exact ⟨_, _, rfl, rfl, rfl⟩

theorem Node.standsIn_self {node : Node} {parent : Option Nat} {first : Nat} {item : OutlineItem}
    (numbered : (node.outline parent first)[0]? = some item) :
    item.StandsIn 0 (node.outline parent first) first := by
  rcases node.outline_head parent first with ⟨head, rest, shape, same, above⟩
  rw [shape] at numbered
  cases numbered
  exact ⟨[], [], by simp [same, above], rfl⟩

mutual
theorem Node.standsIn_outline (node : Node) {parent : Option Nat} {first number : Nat}
    {item : OutlineItem} (numbered : (node.outline parent first)[number]? = some item) :
    item.StandsIn number (node.outline parent first) first := by
  cases number with
  | zero => exact Node.standsIn_self numbered
  | succ number =>
      cases node with
      | plain | leaf => simp [Node.outline] at numbered
      | group kind name body markers children closeBody closeMarkers =>
          rw [Node.outline, List.getElem?_cons_succ] at numbered
          have stands := Node.standsIn_forestOutline children numbered
          rw [Node.outline, ← List.singleton_append, Nat.add_comm]
          exact stands.prepend [_]

theorem Node.standsIn_forestOutline (forest : List Node) {parent : Option Nat}
    {first number : Nat} {item : OutlineItem}
    (numbered : (Node.forestOutline parent first forest)[number]? = some item) :
    item.StandsIn number (Node.forestOutline parent first forest) first := by
  cases forest with
  | nil => simp [Node.forestOutline] at numbered
  | cons node rest =>
      rw [Node.forestOutline] at numbered ⊢
      rw [← Node.length_outline parent first node] at numbered ⊢
      by_cases inside : number < (node.outline parent first).length
      · rw [List.getElem?_append_left inside] at numbered
        exact (Node.standsIn_outline node numbered).append _
      · have beyond := Nat.le_of_not_lt inside
        rw [List.getElem?_append_right beyond] at numbered
        have stands := Node.standsIn_forestOutline rest numbered
        rw [← Nat.add_sub_of_le beyond]
        exact stands.prepend _
end

/-! ## Nodes by their lexemes -/

mutual
/-- The lexemes of each node of an outline stand together in those of the whole. -/
theorem Node.exists_part {node : Node} {lexemes : List Lexeme} (spelled : node.Spelled lexemes)
    {parent : Option Nat} {first : Nat} {item : OutlineItem}
    (member : item ∈ node.outline parent first) :
    ∃ before part behind, lexemes = before ++ part ++ behind ∧ item.node.Spelled part := by
  cases node with
  | plain text markers =>
      simp only [Node.outline, List.mem_singleton] at member
      subst member
      exact ⟨[], lexemes, [], by simp, spelled⟩
  | leaf kind text body markers =>
      simp only [Node.outline, List.mem_singleton] at member
      subst member
      exact ⟨[], lexemes, [], by simp, spelled⟩
  | group kind name body markers children closeBody closeMarkers =>
      rw [Node.outline] at member
      rcases List.mem_cons.mp member with equal | member
      · subst equal
        exact ⟨[], lexemes, [], by simp, spelled⟩
      · rcases spelled with ⟨inner, spelled, rfl⟩
        rcases Node.forest_exists_part spelled member with ⟨before, part, behind, rfl, found⟩
        exact ⟨.tag (.opening kind name) body markers :: before, part,
          behind ++ [.tag (.closing name) closeBody closeMarkers], by simp, found⟩

theorem Node.forest_exists_part {forest : List Node} {lexemes : List Lexeme}
    (spelled : Node.ForestSpelled forest lexemes) {parent : Option Nat} {first : Nat}
    {item : OutlineItem} (member : item ∈ Node.forestOutline parent first forest) :
    ∃ before part behind, lexemes = before ++ part ++ behind ∧ item.node.Spelled part := by
  cases forest with
  | nil => simp [Node.forestOutline] at member
  | cons node rest =>
      rcases spelled with ⟨front, back, one, more, rfl⟩
      rw [Node.forestOutline] at member
      rcases List.mem_append.mp member with member | member
      · rcases Node.exists_part one member with ⟨before, part, behind, rfl, found⟩
        exact ⟨before, part, behind ++ back, by simp, found⟩
      · rcases Node.forest_exists_part more member with ⟨before, part, behind, rfl, found⟩
        exact ⟨front ++ before, part, behind, by simp, found⟩
end

/-! ## Numbers counted from elsewhere -/

/-- The item with all its numbers raised. -/
def OutlineItem.raise (item : OutlineItem) (count : Nat) : OutlineItem where
  node := item.node
  parent := item.parent.map (· + count)
  children := item.children.map (· + count)

/-- The item inside another section. -/
def OutlineItem.inside (item : OutlineItem) (parent : Option Nat) : OutlineItem :=
  { item with parent }

theorem Forest.map_rootsFrom (first count : Nat) (forest : List Node) :
    (Forest.rootsFrom first forest).map (· + count) = Forest.rootsFrom (first + count) forest := by
  induction forest generalizing first with
  | nil => rfl
  | cons node rest induction =>
      rw [Forest.rootsFrom, Forest.rootsFrom, List.map_cons, induction]
      rw [Nat.add_right_comm]

mutual
theorem Node.map_raise_outline (node : Node) (parent : Option Nat) (first count : Nat) :
    (node.outline parent first).map (·.raise count) =
      node.outline (parent.map (· + count)) (first + count) := by
  cases node with
  | plain | leaf => rfl
  | group kind name body markers children closeBody closeMarkers =>
      rw [Node.outline, Node.outline, List.map_cons, Node.map_raise_forestOutline,
        OutlineItem.raise, Forest.map_rootsFrom, Option.map_some, Nat.add_right_comm]

theorem Node.map_raise_forestOutline (forest : List Node) (parent : Option Nat)
    (first count : Nat) :
    (Node.forestOutline parent first forest).map (·.raise count) =
      Node.forestOutline (parent.map (· + count)) (first + count) forest := by
  cases forest with
  | nil => rfl
  | cons node rest =>
      rw [Node.forestOutline, Node.forestOutline, List.map_append, Node.map_raise_outline,
        Node.map_raise_forestOutline, Nat.add_right_comm]
end

/-- Only the first item of a node knows what is around the node. -/
theorem Node.modifyHead_outline (node : Node) (parent other : Option Nat) (first : Nat) :
    (node.outline parent first).modifyHead (·.inside other) = node.outline other first := by
  cases node <;> rfl

namespace Template

/-- The text of a node between standard marks stands for the node: it is a
template with that node alone, numbered in the same order. -/
theorem parse_toSource_of_outline {name source : String} {template : Template} {number : Nat}
    {item : OutlineItem} (parsed : parse name source = .ok template)
    (numbered : template.outline[number]? = some item)
    (standard : item.node.markers = .standard) (other : String) :
    ∃ alone, parse other item.node.toSource = .ok alone ∧ alone.forest = [item.node] ∧
      alone.roots = [0] ∧
      (template.outline.drop number).take alone.size =
        (alone.outline.map (·.raise number)).modifyHead (·.inside item.parent) := by
  rcases parse_eq_ok_iff.mp parsed with ⟨-, lexemes, spelled, legible, -⟩
  refine ⟨⟨other, [item.node]⟩, ?_, rfl, rfl, ?_⟩
  · have member := List.mem_of_getElem? numbered
    rcases Node.forest_exists_part spelled member with ⟨before, part, behind, rfl, found⟩
    rcases legible.take.drop with ⟨markers, readable⟩
    have own := Node.legible_of_spelled found readable
    rw [standard] at own
    refine parse_eq_ok_iff.mpr ⟨rfl, part, ⟨part, [], found, rfl, by simp⟩, own, ?_⟩
    rw [Node.toSource, String.toList_ofList, Node.toChars_of_spelled found]
  · rcases Node.standsIn_forestOutline template.forest numbered with
      ⟨before, behind, whole, counted⟩
    have outline : (Template.mk other [item.node]).outline = item.node.outline none 0 := by
      rw [Template.outline, Node.forestOutline, Node.forestOutline, List.append_nil]
    have size : (Template.mk other [item.node]).size =
        (item.node.outline item.parent (0 + number)).length := by
      rw [Node.length_outline, Template.size, Node.forestCount, Node.forestCount, Nat.add_zero]
    rw [outline, Node.map_raise_outline, Option.map_none, Node.modifyHead_outline, size,
      Template.outline, whole, List.append_assoc, ← counted, List.drop_left, List.take_left]

/-- A section that is closed under other marks than it was opened with. -/
theorem parse_toSource_of_outline_moved_marks :
    ∃ template item,
      parse "page" "x\x7b\x7b#a\x7d\x7d\x7b\x7b=| |=\x7d\x7dé|/ a||b|" = .ok template ∧
      template.outline[1]? = some item ∧ item.node.markers = .standard ∧
      item.node.toSource = "\x7b\x7b#a\x7d\x7d\x7b\x7b=| |=\x7d\x7dé|/ a|" ∧
      ∃ alone, parse "section" item.node.toSource = .ok alone ∧ alone.forest = [item.node] ∧
        alone.roots = [0] ∧
        (template.outline.drop 1).take alone.size =
          (alone.outline.map (·.raise 1)).modifyHead (·.inside item.parent) := by
  have found : ((parse "page" "x\x7b\x7b#a\x7d\x7d\x7b\x7b=| |=\x7d\x7dé|/ a||b|").toOption.bind
      (·.outline[1]?)).map (fun item => (item.node.markers, item.node.toSource)) =
        some (.standard, "\x7b\x7b#a\x7d\x7d\x7b\x7b=| |=\x7d\x7dé|/ a|") := by
    decide +kernel
  cases parsed : parse "page" "x\x7b\x7b#a\x7d\x7d\x7b\x7b=| |=\x7d\x7dé|/ a||b|" with
  | error fault =>
      rw [parsed] at found
      cases found
  | ok template =>
      rw [parsed] at found
      rcases Option.map_eq_some_iff.mp found with ⟨item, numbered, shown⟩
      rcases Prod.mk.inj shown with ⟨standard, written⟩
      exact ⟨template, item, rfl, numbered, standard, written,
        parse_toSource_of_outline parsed numbered standard "section"⟩

end Template

end Mustache
