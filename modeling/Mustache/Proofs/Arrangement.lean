import Mathlib.Data.List.Nodup
import Mustache.Proofs.Written

namespace Mustache

/-! The outline of a template is a tree in document order. Its numbers, its lists of
children and its links to parents are told apart from each other, and still they say the
same: each list can be had from the others. -/

/-! ## Parts of a node -/

namespace Node

def isPlain : Node → Bool
  | .plain .. => true
  | _ => false

def isGroup : Node → Bool
  | .group .. => true
  | _ => false

/-- The nodes that stand in a section. -/
def children : Node → List Node
  | .group _ _ _ _ children _ _ => children
  | _ => []

/-- The marks that a section is closed under. -/
def closeMarkers? : Node → Option Markers
  | .group _ _ _ _ _ _ closeMarkers => some closeMarkers
  | _ => none

theorem count_eq (node : Node) : node.count = Node.forestCount node.children + 1 := by
  cases node <;> rfl

theorem outline_eq (node : Node) (parent : Option Nat) (first : Nat) :
    node.outline parent first =
      ⟨node, parent, Forest.rootsFrom (first + 1) node.children⟩ ::
        Node.forestOutline (some first) (first + 1) node.children := by
  cases node <;> rfl

theorem isSome_closeMarkers? (node : Node) :
    node.closeMarkers?.isSome = true ↔ node.isGroup = true := by
  cases node <;> simp [closeMarkers?, isGroup]

theorem isGroup_of_children {node : Node} (parental : node.children ≠ []) :
    node.isGroup = true := by
  cases node with
  | group => rfl
  | plain | leaf => exact absurd rfl parental

end Node

/-- What holds of a forest if it holds of the nodes in its first node and of the nodes
behind it. -/
@[elab_as_elim]
theorem Forest.inductionOn {motive : List Node → Prop} (nil : motive [])
    (cons : ∀ (node : Node) (rest : List Node), motive node.children → motive rest →
      motive (node :: rest)) : ∀ forest, motive forest
  | [] => nil
  | .plain text markers :: rest => cons _ rest nil (inductionOn nil cons rest)
  | .leaf kind text body markers :: rest => cons _ rest nil (inductionOn nil cons rest)
  | .group kind name body markers children closeBody closeMarkers :: rest =>
    cons _ rest (inductionOn nil cons children) (inductionOn nil cons rest)

/-! ## Numbers -/

namespace Forest

/-- Every number of a forest is listed once, with the roots or with some children. -/
theorem numbers_perm (forest : List Node) (parent : Option Nat) (first : Nat) :
    (rootsFrom first forest ++
      (Node.forestOutline parent first forest).flatMap OutlineItem.children).Perm
        (List.range' first (Node.forestCount forest)) := by
  induction forest using Forest.inductionOn generalizing parent first with
  | nil => exact .nil
  | cons node rest inside behind =>
      have own : (first :: (node.outline parent first).flatMap OutlineItem.children).Perm
          (List.range' first node.count) := by
        rw [node.outline_eq, node.count_eq, List.range'_succ, List.flatMap_cons]
        exact (inside (some first) (first + 1)).cons first
      rw [rootsFrom, Node.forestOutline, Node.forestCount, List.flatMap_append,
        ← List.range'_append_1]
      refine List.Perm.trans ?_ (own.append (behind parent (first + node.count)))
      -- The children of the node change places with the roots behind it.
      rw [List.cons_append, List.cons_append, List.perm_cons, ← List.append_assoc,
        ← List.append_assoc]
      exact List.perm_append_comm.append_right _

end Forest

/-- The outline of a forest stands in a list of items from the number `first` on. -/
def Forest.LiesIn (forest : List Node) (parent : Option Nat) (first : Nat)
    (items : List OutlineItem) : Prop :=
  ∃ before behind, items = before ++ Node.forestOutline parent first forest ++ behind ∧
    before.length = first

namespace Forest.LiesIn

variable {node : Node} {rest forest : List Node} {parent : Option Nat} {first : Nat}
  {items : List OutlineItem}

theorem head (lies : LiesIn (node :: rest) parent first items) :
    items[first]? = some ⟨node, parent, Forest.rootsFrom (first + 1) node.children⟩ := by
  rcases lies with ⟨before, behind, rfl, rfl⟩
  rw [Node.forestOutline, node.outline_eq]
  simp

theorem inside (lies : LiesIn (node :: rest) parent first items) :
    LiesIn node.children (some first) (first + 1) items := by
  rcases lies with ⟨before, behind, rfl, rfl⟩
  refine ⟨before ++ [⟨node, parent, Forest.rootsFrom (before.length + 1) node.children⟩],
    Node.forestOutline parent (before.length + node.count) rest ++ behind, ?_, by simp⟩
  rw [Node.forestOutline, node.outline_eq]
  simp

theorem tail (lies : LiesIn (node :: rest) parent first items) :
    LiesIn rest parent (first + node.count) items := by
  rcases lies with ⟨before, behind, rfl, rfl⟩
  refine ⟨before ++ node.outline parent before.length, behind, ?_, ?_⟩
  · rw [Node.forestOutline]
    simp
  · rw [List.length_append, Node.length_outline]

/-- The roots of a forest have the parent of the forest. -/
theorem parent_of_mem_roots (lies : LiesIn forest parent first items) {number : Nat}
    (member : number ∈ Forest.rootsFrom first forest) :
    ∃ item, items[number]? = some item ∧ item.parent = parent := by
  induction forest generalizing first with
  | nil => cases member
  | cons node rest induction =>
      rcases List.mem_cons.mp member with rfl | later
      · exact ⟨_, lies.head, rfl⟩
      · exact induction lies.tail later

/-- What holds of neighbours in a forest holds of the items of the forest. -/
theorem isChain_roots {related : Node → Node → Prop} (lies : LiesIn forest parent first items)
    (chain : forest.IsChain related) :
    (Forest.rootsFrom first forest).IsChain fun one next => ∀ item other,
      items[one]? = some item → items[next]? = some other → related item.node other.node := by
  induction chain generalizing first with
  | nil => exact .nil
  | singleton node => exact .singleton _
  | @cons_cons node next rest relates chain induction =>
      refine .cons_cons ?_ (induction lies.tail)
      intro item other found follows
      cases lies.head.symm.trans found
      cases lies.tail.head.symm.trans follows
      exact relates

end Forest.LiesIn

/-! ## Preorder -/

/-- A walk over some numbers and over all below them. The numbers are visited one after
the other, each one before its children. -/
inductive Preorder (items : List OutlineItem) : List Nat → List Nat → Prop where
  | nil : Preorder items [] []
  | cons {number : Nat} {item : OutlineItem} {rest inside behind : List Nat}
      (found : items[number]? = some item) (below : Preorder items item.children inside)
      (onwards : Preorder items rest behind) :
      Preorder items (number :: rest) (number :: (inside ++ behind))

theorem Preorder.unique {items : List OutlineItem} {numbers visited other : List Nat}
    (walk : Preorder items numbers visited) (again : Preorder items numbers other) :
    visited = other := by
  induction walk generalizing other with
  | nil =>
      cases again
      rfl
  | cons found below onwards inside behind =>
      cases again with
      | cons found' below' onwards' =>
          cases found.symm.trans found'
          rw [inside below', behind onwards']

theorem Forest.LiesIn.preorder {forest : List Node} {parent : Option Nat} {first : Nat}
    {items : List OutlineItem} (lies : LiesIn forest parent first items) :
    Preorder items (Forest.rootsFrom first forest)
      (List.range' first (Node.forestCount forest)) := by
  induction forest using Forest.inductionOn generalizing parent first with
  | nil => exact .nil
  | cons node rest inside behind =>
      rw [Forest.rootsFrom, Node.forestCount, ← List.range'_append_1, node.count_eq,
        List.range'_succ, ← node.count_eq]
      exact .cons lies.head (inside lies.inside) (behind lies.tail)

/-! ## Outlines -/

namespace Template

theorem liesIn_outline (template : Template) :
    Forest.LiesIn template.forest none 0 template.outline :=
  ⟨[], [], by simp [outline], rfl⟩

/-- The nodes in a section stand in the outline behind the section. -/
theorem liesIn_of_outline {template : Template} {number : Nat} {item : OutlineItem}
    (numbered : template.outline[number]? = some item) :
    item.children = Forest.rootsFrom (number + 1) item.node.children ∧
      Forest.LiesIn item.node.children (some number) (number + 1) template.outline := by
  rcases Node.standsIn_forestOutline template.forest numbered with ⟨before, behind, shape, counted⟩
  have lies : Forest.LiesIn [item.node] item.parent number template.outline := by
    refine ⟨before, behind, ?_, counted⟩
    rw [Node.forestOutline, Node.forestOutline, List.append_nil]
    rwa [Nat.zero_add] at shape
  exact ⟨congrArg OutlineItem.children (Option.some.inj (numbered.symm.trans lies.head)),
    lies.inside⟩

theorem parent_of_mem_children {template : Template} {above : Nat} {holder : OutlineItem}
    (held : template.outline[above]? = some holder) {number : Nat}
    (member : number ∈ holder.children) :
    ∃ item, template.outline[number]? = some item ∧ item.parent = some above := by
  rcases liesIn_of_outline held with ⟨same, lies⟩
  rw [same] at member
  exact lies.parent_of_mem_roots member

end Template

/-! ## Lexemes -/

theorem Lexeme.toChars_ne_nil_of_tag (content : TagContent) (body : String) (markers : Markers) :
    (Lexeme.tag content body markers).toChars ≠ [] := by
  simp [toChars, Markers.around, markers.opening_ne_nil]

/-- Every lexeme takes a character. -/
theorem Legible.length_le {markers : Markers} {lexemes : List Lexeme}
    (legible : Legible markers lexemes) :
    lexemes.length ≤ (lexemes.flatMap Lexeme.toChars).length := by
  have occupies : ∀ {lexeme : Lexeme} {rest : List Lexeme}, lexeme.toChars ≠ [] →
      rest.length ≤ (rest.flatMap Lexeme.toChars).length →
        (lexeme :: rest).length ≤ ((lexeme :: rest).flatMap Lexeme.toChars).length := by
    intro lexeme rest nonempty bound
    rw [List.flatMap_cons, List.length_append, List.length_cons, Nat.add_comm]
    exact Nat.add_le_add (List.length_pos_iff.mpr nonempty) bound
  induction legible with
  | nil => exact Nat.le_refl _
  | @plain markers text rest nonempty ended follows induction =>
      exact occupies (by simpa [Lexeme.toChars] using nonempty) induction
  | tag form follows induction => exact occupies (Lexeme.toChars_ne_nil_of_tag _ _ _) induction

mutual
theorem Node.count_le_of_spelled {node : Node} {lexemes : List Lexeme}
    (spelled : node.Spelled lexemes) : node.count ≤ lexemes.length := by
  cases node with
  | plain text markers =>
      cases spelled
      exact Nat.le_refl 1
  | leaf kind text body markers =>
      rcases spelled with ⟨content, -, rfl⟩
      exact Nat.le_refl 1
  | group kind name body markers children closeBody closeMarkers =>
      rcases spelled with ⟨inner, spelled, rfl⟩
      have bound := Node.forestCount_le_of_spelled spelled
      simp only [Node.count, List.length_cons, List.length_append, List.length_nil]
      omega

/-- A section takes two lexemes and counts once. -/
theorem Node.forestCount_le_of_spelled {forest : List Node} {lexemes : List Lexeme}
    (spelled : Node.ForestSpelled forest lexemes) : Node.forestCount forest ≤ lexemes.length := by
  cases forest with
  | nil => exact Nat.zero_le _
  | cons node rest =>
      rcases spelled with ⟨first, others, one, more, rfl⟩
      rw [Node.forestCount, List.length_append]
      exact Nat.add_le_add (Node.count_le_of_spelled one) (Node.forestCount_le_of_spelled more)
end

/-- Not both are texts. -/
def Node.Apart (one next : Node) : Prop :=
  ¬ (one.isPlain = true ∧ next.isPlain = true)

/-- Two texts in a row are read as one. -/
theorem Node.isChain_of_spelled {forest : List Node} {lexemes : List Lexeme} {markers : Markers}
    (spelled : Node.ForestSpelled forest lexemes) (legible : Legible markers lexemes) :
    forest.IsChain Node.Apart := by
  induction forest generalizing lexemes markers with
  | nil => exact .nil
  | cons node rest induction =>
      rcases spelled with ⟨first, others, one, more, rfl⟩
      rcases legible.drop with ⟨later, readable⟩
      have chain := induction more readable
      cases rest with
      | nil => exact .singleton node
      | cons next rest =>
          refine .cons_cons ?_ chain
          rintro ⟨text, also⟩
          cases node with
          | leaf | group => cases text
          | plain =>
          cases next with
          | leaf | group => cases also
          | plain =>
              rcases more with ⟨second, behind, two, -, rfl⟩
              cases one
              cases two
              cases legible with
              | plain nonempty ended follows => exact ended

/-! ## Templates -/

namespace Template

theorem isChain_of_outline {name source : String} {template : Template}
    (parsed : parse name source = .ok template) {item : OutlineItem}
    (member : item ∈ template.outline) : item.node.children.IsChain Node.Apart := by
  rcases exists_lexemes_of_parse parsed member with ⟨lexemes, spelled, legible⟩
  cases node : item.node with
  | plain | leaf => exact .nil
  | group kind name body markers children closeBody closeMarkers =>
      rw [node] at spelled legible
      rcases spelled with ⟨inner, spelled, rfl⟩
      cases legible with
      | tag form follows => exact Node.isChain_of_spelled spelled follows.take

/-- The outline is a tree in document order, in which texts are not empty and do not stand
side by side, and names are trimmed. -/
structure Arranged (template : Template) : Prop where
  length : template.outline.length = template.size
  once : (template.roots ++ template.outline.flatMap OutlineItem.children).Perm
    (List.range template.size)
  root_iff : ∀ (number : Nat) (item : OutlineItem), template.outline[number]? = some item →
    (number ∈ template.roots ↔ item.parent = none)
  child_iff : ∀ (number above : Nat) (item : OutlineItem),
    template.outline[number]? = some item →
      ((∃ holder : OutlineItem, template.outline[above]? = some holder ∧
        number ∈ holder.children) ↔ item.parent = some above)
  preorder : ∀ visited,
    Preorder template.outline template.roots visited ↔ visited = List.range template.size
  group_of_children : ∀ item ∈ template.outline, item.children ≠ [] → item.node.isGroup = true
  closed_iff : ∀ item ∈ template.outline,
    item.node.closeMarkers?.isSome = true ↔ item.node.isGroup = true
  text_ne_empty : ∀ item ∈ template.outline, ∀ (text : String) (markers : Markers),
    item.node = .plain text markers → text ≠ ""
  apart : ∀ siblings ∈ template.roots :: template.outline.map OutlineItem.children,
    siblings.IsChain fun one next => ∀ item other : OutlineItem,
      template.outline[one]? = some item → template.outline[next]? = some other →
        item.node.Apart other.node
  trimmed : ∀ item ∈ template.outline, ∀ name, item.node.name? = some name →
    name ≠ "" ∧ Text.trimBlanks name.toList = name.toList

/-- A number stands with the roots or with the children of a section. -/
theorem mem_roots_or_children {template : Template} {number : Nat} {item : OutlineItem}
    (numbered : template.outline[number]? = some item) :
    number ∈ template.roots ∨ ∃ (above : Nat) (holder : OutlineItem),
      template.outline[above]? = some holder ∧ number ∈ holder.children := by
  have bound : number < template.size := by
    rw [← template.length_outline]
    exact (List.getElem?_eq_some_iff.mp numbered).1
  have listed := (Forest.numbers_perm template.forest none 0).mem_iff.mpr
    (List.mem_range'_1.mpr ⟨Nat.zero_le number, by rwa [Nat.zero_add]⟩)
  rcases List.mem_append.mp listed with root | child
  · exact .inl root
  · rcases List.mem_flatMap.mp child with ⟨holder, among, member⟩
    rcases List.getElem?_of_mem among with ⟨above, held⟩
    exact .inr ⟨above, holder, held, member⟩

theorem parent_eq_none {template : Template} {number : Nat} {item : OutlineItem}
    (numbered : template.outline[number]? = some item) (root : number ∈ template.roots) :
    item.parent = none := by
  rcases template.liesIn_outline.parent_of_mem_roots root with ⟨same, found, parent⟩
  cases numbered.symm.trans found
  exact parent

theorem parent_eq_some {template : Template} {number above : Nat} {item holder : OutlineItem}
    (numbered : template.outline[number]? = some item)
    (held : template.outline[above]? = some holder) (child : number ∈ holder.children) :
    item.parent = some above := by
  rcases parent_of_mem_children held child with ⟨same, found, parent⟩
  cases numbered.symm.trans found
  exact parent

theorem mem_roots_iff {template : Template} {number : Nat} {item : OutlineItem}
    (numbered : template.outline[number]? = some item) :
    number ∈ template.roots ↔ item.parent = none := by
  refine ⟨parent_eq_none numbered, fun none => ?_⟩
  rcases mem_roots_or_children numbered with root | ⟨above, holder, held, child⟩
  · exact root
  · cases none.symm.trans (parent_eq_some numbered held child)

theorem mem_children_iff {template : Template} {number : Nat} {item : OutlineItem}
    (numbered : template.outline[number]? = some item) (above : Nat) :
    (∃ holder : OutlineItem, template.outline[above]? = some holder ∧ number ∈ holder.children) ↔
      item.parent = some above := by
  refine ⟨fun ⟨holder, held, child⟩ => parent_eq_some numbered held child, fun some => ?_⟩
  rcases mem_roots_or_children numbered with root | ⟨other, keeper, kept, child⟩
  · cases some.symm.trans (parent_eq_none numbered root)
  · cases some.symm.trans (parent_eq_some numbered kept child)
    exact ⟨keeper, kept, child⟩

theorem preorder_iff (template : Template) (visited : List Nat) :
    Preorder template.outline template.roots visited ↔ visited = List.range template.size := by
  have walk := template.liesIn_outline.preorder
  rw [List.range_eq_range']
  constructor
  · exact fun other => other.unique walk
  · rintro rfl
    exact walk

theorem isChain_siblings {name source : String} {template : Template}
    (parsed : parse name source = .ok template) {siblings : List Nat}
    (member : siblings ∈ template.roots :: template.outline.map OutlineItem.children) :
    siblings.IsChain fun one next => ∀ item other : OutlineItem,
      template.outline[one]? = some item → template.outline[next]? = some other →
        item.node.Apart other.node := by
  rcases List.mem_cons.mp member with rfl | member
  · rcases parse_eq_ok_iff.mp parsed with ⟨-, lexemes, spelled, legible, -⟩
    exact template.liesIn_outline.isChain_roots (Node.isChain_of_spelled spelled legible)
  · rcases List.mem_map.mp member with ⟨item, listed, rfl⟩
    rcases List.getElem?_of_mem listed with ⟨number, numbered⟩
    rcases liesIn_of_outline numbered with ⟨same, lies⟩
    rw [same]
    exact lies.isChain_roots (isChain_of_outline parsed listed)

theorem isGroup_of_outline {template : Template} {item : OutlineItem}
    (member : item ∈ template.outline) (parental : item.children ≠ []) :
    item.node.isGroup = true := by
  rcases List.getElem?_of_mem member with ⟨number, numbered⟩
  apply Node.isGroup_of_children
  intro none
  rw [(liesIn_of_outline numbered).1, none] at parental
  exact parental rfl

theorem numbers_perm (template : Template) :
    (template.roots ++ template.outline.flatMap OutlineItem.children).Perm
      (List.range template.size) := by
  rw [List.range_eq_range']
  exact Forest.numbers_perm template.forest none 0

theorem text_ne_empty_of_parse {name source : String} {template : Template}
    (parsed : parse name source = .ok template) {item : OutlineItem}
    (member : item ∈ template.outline) {text : String} {markers : Markers}
    (plain : item.node = .plain text markers) : text ≠ "" := by
  have written := written_of_parse parsed member
  rw [plain] at written
  exact written

theorem size_le_of_parse {name source : String} {template : Template}
    (parsed : parse name source = .ok template) : template.size ≤ source.length := by
  rcases parse_eq_ok_iff.mp parsed with ⟨-, lexemes, spelled, legible, spells⟩
  rw [← String.length_toList, ← spells]
  exact Nat.le_trans (Node.forestCount_le_of_spelled spelled) legible.length_le

/-- The template of a source is arranged, and it has no more items than the source has
characters. -/
theorem arranged_of_parse {name source : String} {template : Template}
    (parsed : parse name source = .ok template) :
    template.Arranged ∧ template.size ≤ source.length := by
  refine ⟨⟨template.length_outline, template.numbers_perm, fun _ _ => mem_roots_iff,
    fun _ above _ numbered => mem_children_iff numbered above, template.preorder_iff,
    fun _ => isGroup_of_outline, fun item _ => item.node.isSome_closeMarkers?, ?_,
    fun _ => isChain_siblings parsed, ?_⟩, size_le_of_parse parsed⟩
  · intro item member text markers plain
    exact text_ne_empty_of_parse parsed member plain
  · intro item member name named
    exact (written_of_parse parsed member).trimmed named

/-- A text in front of a section with a section in it. -/
theorem arranged_of_parse_nested :
    let source := "a\x7b\x7b#s\x7d\x7db\x7b\x7b^t\x7d\x7d\x7b\x7b/t\x7d\x7dc\x7b\x7b/s\x7d\x7d"
    ∃ page, parse "page" source = .ok page ∧ page.roots = [0, 1] ∧
      page.outline.map OutlineItem.children = [[], [2, 3, 4], [], [], []] ∧
      page.Arranged ∧ page.size ≤ source.length := by
  intro source
  have shown : (parse "page" source).toOption.map
      (fun page => (page.roots, page.outline.map OutlineItem.children)) =
        some ([0, 1], [[], [2, 3, 4], [], [], []]) := by
    decide +kernel
  cases parsed : parse "page" source with
  | error fault =>
      rw [parsed] at shown
      cases shown
  | ok page =>
      rw [parsed] at shown
      rcases Prod.mk.inj (Option.some.inj shown) with ⟨roots, children⟩
      exact ⟨page, rfl, roots, children, arranged_of_parse parsed⟩

end Template

end Mustache
