import Mustache.Proofs.Arena.Walk
import Mustache.Proofs.InForce
import Mustache.Proofs.Parser
import Mustache.Proofs.Pragmas
import Mustache.Proofs.RoundTrip

namespace Mustache

/-! What is known of an arena that is read from a source. It is told by the numbers of its tags
alone: they are a tree in document order, each of them has the marks that are in force where it
is written, and the pragmas are those of the tags. -/

/-! ## Parts of a tag -/

namespace TagKind

def isGroup : TagKind → Bool
  | .group _ => true
  | .plain | .leaf _ => false

/-- Whether the text of a tag is a name that it looks up, includes or closes by. -/
def isNamed : TagKind → Bool
  | .plain | .leaf .comment | .leaf .pragma | .leaf .redelimit => false
  | .leaf _ | .group _ => true

end TagKind

namespace Tag

/-- The text of a tag that sets new marks. -/
def newMarks? (tag : Tag) : Option String :=
  if tag.kind = .leaf .redelimit then some tag.text else none

def pragma? (tag : Tag) : Option Pragma :=
  if tag.kind = .leaf .pragma then some (Pragma.parse tag.text.toList) else none

end Tag

namespace OutlineItem

variable (item : OutlineItem)

@[simp] theorem parent_tag : item.tag.parent = item.parent := by
  rcases item with ⟨node, parent, children⟩
  cases node <;> rfl

@[simp] theorem children_tag : item.tag.children = item.children := by
  rcases item with ⟨node, parent, children⟩
  cases node <;> rfl

@[simp] theorem markers_tag : item.tag.markers = item.node.markers := by
  rcases item with ⟨node, parent, children⟩
  cases node <;> rfl

@[simp] theorem closeMarkers_tag : item.tag.closeMarkers = item.node.closeMarkers? := by
  rcases item with ⟨node, parent, children⟩
  cases node <;> rfl

@[simp] theorem isGroup_tag : item.tag.kind.isGroup = item.node.isGroup := by
  rcases item with ⟨node, parent, children⟩
  cases node <;> rfl

@[simp] theorem newMarks?_tag : item.tag.newMarks? = item.node.newMarks? := by
  rcases item with ⟨node, parent, children⟩
  cases node with
  | plain | group => rfl
  | leaf kind text body markers => cases kind <;> rfl

@[simp] theorem pragma?_tag : item.tag.pragma? = item.node.pragma? := by
  rcases item with ⟨node, parent, children⟩
  cases node with
  | plain | group => rfl
  | leaf kind text body markers => cases kind <;> rfl

variable {item}

theorem plain_of_tag (plain : item.tag.kind = .plain) :
    item.node = .plain item.tag.text item.tag.markers := by
  rcases item with ⟨node, parent, children⟩
  cases node with
  | plain => rfl
  | leaf | group => cases plain

theorem name?_of_tag (named : item.tag.kind.isNamed = true) :
    item.node.name? = some item.tag.text := by
  rcases item with ⟨node, parent, children⟩
  cases node with
  | plain => cases named
  | leaf kind text body markers => cases kind <;> first | rfl | cases named
  | group => rfl

end OutlineItem

/-! ## Arenas -/

namespace Arena

/-- A walk over some numbers and over all below them. The numbers are visited one after
the other, each one before its children. -/
inductive Visits (arena : Arena) : List Nat → List Nat → Prop where
  | nil : Visits arena [] []
  | cons {number : Nat} {tag : Tag} {rest inside behind : List Nat}
      (found : arena.tags[number]? = some tag) (below : Visits arena tag.children inside)
      (onwards : Visits arena rest behind) :
      Visits arena (number :: rest) (number :: (inside ++ behind))

/-- The tags are a tree in document order, in which texts are not empty and do not stand
side by side, and names are trimmed. -/
structure Arranged (arena : Arena) : Prop where
  once : (arena.roots ++ arena.tags.toList.flatMap Tag.children).Perm
    (List.range arena.tags.size)
  root_iff : ∀ (number : Nat) (tag : Tag), arena.tags[number]? = some tag →
    (number ∈ arena.roots ↔ tag.parent = none)
  child_iff : ∀ (number above : Nat) (tag : Tag), arena.tags[number]? = some tag →
    ((∃ holder : Tag, arena.tags[above]? = some holder ∧ number ∈ holder.children) ↔
      tag.parent = some above)
  preorder : ∀ visited,
    arena.Visits arena.roots visited ↔ visited = List.range arena.tags.size
  group_of_children : ∀ tag ∈ arena.tags, tag.children ≠ [] → tag.kind.isGroup = true
  closed_iff : ∀ tag ∈ arena.tags, tag.closeMarkers.isSome = true ↔ tag.kind.isGroup = true
  text_ne_empty : ∀ tag ∈ arena.tags, tag.kind = .plain → tag.text ≠ ""
  apart : ∀ siblings ∈ arena.roots :: arena.tags.toList.map Tag.children,
    siblings.IsChain fun one next => ∀ tag other : Tag,
      arena.tags[one]? = some tag → arena.tags[next]? = some other →
        ¬ (tag.kind = .plain ∧ other.kind = .plain)
  trimmed : ∀ tag ∈ arena.tags, tag.kind.isNamed = true →
    tag.text ≠ "" ∧ Text.trimBlanks tag.text.toList = tag.text.toList

/-- The marks in force at a number: those that the last tag before it has set, or the
standard ones if there is no such tag. -/
inductive InForce (arena : Arena) (number : Nat) (markers : Markers) : Prop where
  | standard (unset : ∀ (other : Nat) (tag : Tag), other < number →
      arena.tags[other]? = some tag → tag.newMarks? = none) (same : markers = .standard)
  | set {last : Nat} {tag : Tag} {text : String} (before : last < number)
      (found : arena.tags[last]? = some tag) (sets : tag.newMarks? = some text)
      (latest : ∀ (other : Nat) (later : Tag), last < other → other < number →
        arena.tags[other]? = some later → later.newMarks? = none)
      (named : text.toList = markers.toChars)

/-- Every tag has the marks that are in force where it is written, and just one pair of
marks is in force at each place. -/
structure Marked (arena : Arena) : Prop where
  own : ∀ (number : Nat) (tag : Tag), arena.tags[number]? = some tag →
    arena.InForce number tag.markers
  /-- A section is closed under the marks that are in force behind all that it holds. -/
  closed : ∀ (number : Nat) (tag : Tag) (closing : Markers),
    arena.tags[number]? = some tag → tag.closeMarkers = some closing →
      ∃ visited, arena.Visits [number] visited ∧
        arena.InForce (number + visited.length) closing
  unique : ∀ number ≤ arena.tags.size, ∃! markers, arena.InForce number markers
  sound : ∀ (number : Nat) (markers : Markers), arena.InForce number markers →
    markers.opening ≠ [] ∧ (∀ character ∈ markers.opening, Text.isBlank character = false) ∧
      markers.closing ≠ [] ∧
      ∀ character ∈ markers.closing, Text.isBlank character = false ∧ character ≠ '='

end Arena

/-! ## The arena of a template -/

namespace Template

variable {template : Template} {number : Nat} {tag : Tag} {item : OutlineItem}

theorem tags_arena_eq_some_iff : template.arena.tags[number]? = some tag ↔
    ∃ item, template.outline[number]? = some item ∧ item.tag = tag := by
  simp [arena]

theorem mem_tags_arena_iff :
    tag ∈ template.arena.tags ↔ ∃ item ∈ template.outline, item.tag = tag := by
  simp [arena]

theorem size_tags_arena (template : Template) : template.arena.tags.size = template.size := by
  simp [arena, length_outline]

theorem visits_arena_iff {numbers visited : List Nat} :
    template.arena.Visits numbers visited ↔ Preorder template.outline numbers visited := by
  constructor
  · intro visits
    induction visits with
    | nil => exact .nil
    | cons found below onwards inside behind =>
        rcases tags_arena_eq_some_iff.mp found with ⟨item, numbered, rfl⟩
        rw [item.children_tag] at inside
        exact .cons numbered inside behind
  · intro walk
    induction walk with
    | nil => exact .nil
    | @cons number item rest _ _ numbered below onwards inside behind =>
        rw [← item.children_tag] at inside
        exact .cons (tags_arena numbered) inside behind

theorem inForce_arena_iff {markers : Markers} :
    template.arena.InForce number markers ↔ InForce template.outline number markers := by
  constructor
  · intro force
    cases force with
    | standard unset same =>
        refine .standard (fun other item before numbered => ?_) same
        simpa using unset other item.tag before (tags_arena numbered)
    | set before found sets latest named =>
        rcases tags_arena_eq_some_iff.mp found with ⟨item, numbered, rfl⟩
        refine .set before numbered (by simpa using sets) (fun other later behind within held => ?_)
          named
        simpa using latest other later.tag behind within (tags_arena held)
  · intro force
    cases force with
    | standard unset same =>
        refine .standard (fun other tag before found => ?_) same
        rcases tags_arena_eq_some_iff.mp found with ⟨item, numbered, rfl⟩
        simpa using unset other item before numbered
    | @set last item text before numbered sets latest named =>
        refine .set before (tags_arena numbered) (by simpa using sets)
          (fun other later behind within found => ?_) named
        rcases tags_arena_eq_some_iff.mp found with ⟨item, held, rfl⟩
        simpa using latest other item behind within held

theorem map_children_arena (template : Template) :
    template.arena.tags.toList.map Tag.children = template.outline.map OutlineItem.children := by
  simp [arena]

theorem numbers_perm_arena (template : Template) :
    (template.arena.roots ++ template.arena.tags.toList.flatMap Tag.children).Perm
      (List.range template.arena.tags.size) := by
  rw [List.flatMap_def, map_children_arena, ← List.flatMap_def, size_tags_arena]
  exact template.numbers_perm

/-- The items behind the number of a section that stand in it are what is visited from it. -/
theorem visits_of_outline (numbered : template.outline[number]? = some item) :
    ∃ visited, template.arena.Visits [number] visited ∧ visited.length = item.node.count := by
  rcases liesIn_of_outline numbered with ⟨same, lies⟩
  refine ⟨_, visits_arena_iff.mpr (.cons numbered (same ▸ lies.preorder) .nil), ?_⟩
  simp [item.node.count_eq]

variable {name source : String}

theorem arranged_arena (parsed : parse name source = .ok template) :
    template.arena.Arranged := by
  refine ⟨template.numbers_perm_arena, ?_, ?_, ?_, ?_, ?_, ?_, ?_, ?_⟩
  · intro number tag found
    rcases tags_arena_eq_some_iff.mp found with ⟨item, numbered, rfl⟩
    rw [item.parent_tag]
    exact mem_roots_iff numbered
  · intro number above tag found
    rcases tags_arena_eq_some_iff.mp found with ⟨item, numbered, rfl⟩
    rw [item.parent_tag, ← mem_children_iff numbered above]
    simp [tags_arena_eq_some_iff]
  · intro visited
    rw [visits_arena_iff, size_tags_arena]
    exact template.preorder_iff visited
  · intro tag member parental
    rcases mem_tags_arena_iff.mp member with ⟨item, listed, rfl⟩
    rw [item.children_tag] at parental
    rw [item.isGroup_tag]
    exact isGroup_of_outline listed parental
  · intro tag member
    rcases mem_tags_arena_iff.mp member with ⟨item, listed, rfl⟩
    rw [item.closeMarkers_tag, item.isGroup_tag]
    exact item.node.isSome_closeMarkers?
  · intro tag member plain
    rcases mem_tags_arena_iff.mp member with ⟨item, listed, rfl⟩
    exact text_ne_empty_of_parse parsed listed (OutlineItem.plain_of_tag plain)
  · intro siblings member
    rw [map_children_arena] at member
    refine (isChain_siblings parsed member).imp fun one next apart tag other found follows => ?_
    rcases tags_arena_eq_some_iff.mp found with ⟨item, numbered, rfl⟩
    rcases tags_arena_eq_some_iff.mp follows with ⟨behind, held, rfl⟩
    rintro ⟨plain, also⟩
    apply apart item behind numbered held
    rw [OutlineItem.plain_of_tag plain, OutlineItem.plain_of_tag also]
    exact ⟨rfl, rfl⟩
  · intro tag member named
    rcases mem_tags_arena_iff.mp member with ⟨item, listed, rfl⟩
    exact (written_of_parse parsed listed).trimmed (OutlineItem.name?_of_tag named)

theorem marked_arena (parsed : parse name source = .ok template) : template.arena.Marked := by
  refine ⟨?_, ?_, ?_, ?_⟩
  · intro number tag found
    rcases tags_arena_eq_some_iff.mp found with ⟨item, numbered, rfl⟩
    rw [item.markers_tag, inForce_arena_iff]
    exact inForce_of_outline parsed numbered
  · intro number tag closing found closed
    rcases tags_arena_eq_some_iff.mp found with ⟨item, numbered, rfl⟩
    rw [item.closeMarkers_tag] at closed
    rcases visits_of_outline numbered with ⟨visited, visits, length⟩
    refine ⟨visited, visits, ?_⟩
    rw [length, inForce_arena_iff]
    exact inForce_of_closed parsed numbered closed
  · intro number within
    rw [size_tags_arena] at within
    simpa only [inForce_arena_iff] using existsUnique_inForce parsed within
  · intro number markers force
    have sound := sound_of_inForce parsed (inForce_arena_iff.mp force)
    exact ⟨markers.opening_ne_nil, sound.opening, markers.closing_ne_nil, sound.closing⟩

theorem pragmas_arena (template : Template) :
    template.arena.pragmas = template.arena.tags.toList.filterMap Tag.pragma? := by
  have tags : template.arena.tags.toList = template.outline.map OutlineItem.tag := by
    simp [arena]
  rw [tags, List.filterMap_map]
  refine template.pragmas_eq_pragmaTags.trans (List.filterMap_congr fun item _ => ?_)
  exact item.pragma?_tag.symm

end Template

/-! ## What is read -/

namespace Parser

variable {name source : String} {passesOver : Condition → Bool} {arena : Arena}

theorem exists_template (read : (parse name source passesOver).run = some (.ok arena)) :
    ∃ template, Template.parse name source = .ok template ∧ arena = template.arena := by
  rw [parse_eq_told] at read
  cases built : Forest.ofTokens (.read source.toList) with
  | ok forest =>
      rw [built] at read
      cases read
      exact ⟨⟨name, forest⟩, by rw [Template.parse, built], rfl⟩
  | error defect =>
      rw [built] at read
      cases read

/-- The arena of a source is arranged, and it has no more tags than the source has
characters. -/
theorem arranged_arena (read : (parse name source passesOver).run = some (.ok arena)) :
    arena.Arranged ∧ arena.tags.size ≤ source.length := by
  rcases exists_template read with ⟨template, parsed, rfl⟩
  rw [template.size_tags_arena]
  exact ⟨Template.arranged_arena parsed, Template.size_le_of_parse parsed⟩

theorem marked_arena (read : (parse name source passesOver).run = some (.ok arena)) :
    arena.Marked := by
  rcases exists_template read with ⟨template, parsed, rfl⟩
  exact Template.marked_arena parsed

/-- The pragmas are those of the pragma tags, in the order in which they are written. -/
theorem pragmas_arena (read : (parse name source passesOver).run = some (.ok arena)) :
    arena.pragmas = arena.tags.toList.filterMap Tag.pragma? ∧
      arena.pragmas = (TokenSequence.read source.toList).tokens.filterMap
        fun token => token.lexeme.pragma? := by
  rcases exists_template read with ⟨template, parsed, rfl⟩
  exact ⟨template.pragmas_arena, Template.pragmas_eq_of_parse parsed⟩

/-- The walk over the tags writes the source. -/
theorem toSource_arena (read : (parse name source passesOver).run = some (.ok arena)) :
    arena.toSource = some source := by
  rcases exists_template read with ⟨template, parsed, rfl⟩
  rw [template.toSource_arena, Template.toSource, Template.forestToChars_of_parse parsed,
    String.ofList_toList]

end Parser

end Mustache
