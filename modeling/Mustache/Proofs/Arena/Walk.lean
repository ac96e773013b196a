import Mustache.Arena.Walk
import Mustache.Proofs.Arrangement

namespace Mustache

/-! A walk over the arena of a template by the numbers of its tags does what the walk over its
forest does. The nodes of a forest are numbered in the order in which they are written, so in
the arena a tag is found together with all that it holds. -/

/-! ## Steps that come to an end -/

namespace Rendering

variable {State Result Next : Type}

theorem venture_bind (step : Rendering State Result) (next : Result → Rendering State Next) :
    (step >>= next).venture = step.venture >>= fun result => (next result).venture := by
  funext progress
  simp only [venture, bind, EStateM.bind, ExceptT.bind, ExceptT.mk, StateT.bind]
  cases step progress with
  | ok result after => rfl
  | error error after => rfl

theorem venture_forEach {Item : Type} (step : Item → Rendering State Unit) (items : List Item) :
    (forEach step items).venture = items.forM fun item => (step item).venture := by
  induction items with
  | nil => rfl
  | cons item rest induction =>
      rw [forEach, venture_bind, induction]
      rfl

end Rendering

/-! ## Tags by their numbers -/

namespace Template

variable {template : Template} {number : Nat} {item : OutlineItem}

theorem tags_arena (numbered : template.outline[number]? = some item) :
    template.arena.tags[number]? = some item.tag := by
  simp [arena, numbered]

end Template

/-! ## The text of a tag -/

theorem Node.forestToChars_eq (forest : List Node) :
    forestToChars forest = (forest.map toChars).flatten := by
  induction forest with
  | nil => rfl
  | cons node rest induction => rw [forestToChars, induction, List.map_cons, List.flatten_cons]

namespace Template

variable {template : Template} {number : Nat} {item : OutlineItem}

/-- The text of a tag if the texts of those that it holds are known. -/
theorem writeTag_of_children (numbered : template.outline[number]? = some item)
    (inside : item.children.mapM template.arena.writeTag =
      some (item.node.children.map Node.toChars)) :
    template.arena.writeTag number = some item.node.toChars := by
  rcases item with ⟨node, parent, children⟩
  rw [Arena.writeTag, tags_arena numbered]
  cases node with
  | plain text markers => rfl
  | leaf kind text body markers => rfl
  | group kind name body markers nodes closeBody closeMarkers =>
      simp only [OutlineItem.tag, Option.bind_eq_bind, Option.bind_some, Option.getD_some]
      rw [inside, Node.toChars, Node.forestToChars_eq]
      rfl

theorem writeTag_roots {forest : List Node} {parent : Option Nat} {first : Nat}
    (lies : Forest.LiesIn forest parent first template.outline) :
    (Forest.rootsFrom first forest).mapM template.arena.writeTag =
      some (forest.map Node.toChars) := by
  induction forest using Forest.inductionOn generalizing parent first with
  | nil => rfl
  | cons node rest inside behind =>
      rw [Forest.rootsFrom, List.mapM_cons, writeTag_of_children lies.head (inside lies.inside),
        behind lies.tail]
      rfl

/-- The source of each tag is that of its node. -/
theorem tagSource_arena (numbered : template.outline[number]? = some item) :
    template.arena.tagSource number = some item.node.toSource := by
  rcases liesIn_of_outline numbered with ⟨same, lies⟩
  rw [Arena.tagSource, writeTag_of_children numbered (same ▸ writeTag_roots lies)]
  rfl

theorem toSource_arena (template : Template) :
    template.arena.toSource = some template.toSource := by
  have roots := writeTag_roots template.liesIn_outline
  rw [Arena.toSource, toSource, Node.forestToChars_eq]
  change (template.roots.mapM template.arena.writeTag >>= fun roots => _) = _
  rw [Template.roots, roots]
  rfl

end Template

/-! ## Rendering a tag -/

namespace Template

variable {State Lambda : Type} {surroundings : Surroundings State Lambda}
  {including : String → Scopes Lambda → Rendering State Unit}
  {template : Template} {number : Nat} {item : OutlineItem}

/-- A tag is rendered as its node is if this holds of all that it holds. A lambda gets the
source of the tag from the arena. -/
theorem renderTag_of_children (numbered : template.outline[number]? = some item)
    (inside : ∀ scopes, (item.children.forM
      (template.arena.renderTag surroundings including scopes)) =
        (Node.renderForest surroundings including scopes item.node.children).venture)
    (scopes : Scopes Lambda) :
    template.arena.renderTag surroundings including scopes number =
      (item.node.render surroundings including scopes).venture := by
  have source := tagSource_arena numbered
  rcases item with ⟨node, parent, children⟩
  rw [Arena.renderTag, tags_arena numbered]
  cases node with
  | plain text markers => rfl
  | leaf kind text body markers =>
      cases kind with
      | inclusion => exact (Rendering.venture_bind _ _).symm
      | name | unescaped | triple | comment | pragma | redelimit => rfl
  | group kind name body markers nodes closeBody closeMarkers =>
      have within : ∀ scopes, (children.forM fun child =>
          template.arena.renderTag surroundings including scopes child) =
            (Node.renderForest surroundings including scopes nodes).venture := inside
      cases kind with
      | inverted =>
          rw [Node.render, Rendering.venture_bind]
          refine congrArg ((Rendering.consult _).venture >>= ·) (funext fun _ => ?_)
          rw [apply_ite Rendering.venture, ← within]
          rfl
      | «section» =>
          rw [Node.render, Rendering.venture_bind]
          refine congrArg ((Rendering.consult _).venture >>= ·) (funext fun _ => ?_)
          dsimp only [OutlineItem.tag]
          cases scopes.lookup name with
          | map entries =>
              dsimp only
              rw [apply_ite Rendering.venture, ← within]
              rfl
          | list items =>
              rw [Rendering.venture_forEach]
              exact congrArg items.forM (funext fun item => within (scopes.bindElement item))
          | lambda lambda =>
              rw [source]
              rfl
          | absent | bool | integer | float | text =>
              dsimp only
              rw [apply_ite Rendering.venture, ← within]
              rfl

theorem renderTag_roots {forest : List Node} {parent : Option Nat} {first : Nat}
    (lies : Forest.LiesIn forest parent first template.outline) (scopes : Scopes Lambda) :
    ((Forest.rootsFrom first forest).forM
        (template.arena.renderTag surroundings including scopes)) =
      (Node.renderForest surroundings including scopes forest).venture := by
  induction forest using Forest.inductionOn generalizing parent first scopes with
  | nil => rfl
  | cons node rest inside behind =>
      rw [Node.renderForest, Rendering.venture_bind, ← behind lies.tail scopes,
        ← renderTag_of_children lies.head (inside lies.inside) scopes]
      rfl

/-- Each tag is rendered as its node is. -/
theorem renderTag_arena (numbered : template.outline[number]? = some item)
    (scopes : Scopes Lambda) :
    template.arena.renderTag surroundings including scopes number =
      (item.node.render surroundings including scopes).venture := by
  rcases liesIn_of_outline numbered with ⟨same, lies⟩
  exact renderTag_of_children numbered (same ▸ renderTag_roots lies) scopes

theorem renderRoots_arena (template : Template)
    (surroundings : Surroundings State Lambda)
    (including : String → Scopes Lambda → Rendering State Unit) (scopes : Scopes Lambda) :
    template.arena.renderRoots surroundings including scopes =
      (Node.renderForest surroundings including scopes template.forest).venture :=
  renderTag_roots template.liesIn_outline scopes

/-- A template is rendered by its arena, once the host has accepted its pragmas. -/
theorem render_arena (surroundings : Surroundings State Lambda) (template : Template)
    (scopes : Scopes Lambda) :
    (template.render surroundings scopes).venture =
      (Rendering.inspect surroundings.host template).venture >>= fun _ =>
        template.arena.renderRoots surroundings
          (renderInclusion surroundings surroundings.depthLimit template.name) scopes := by
  rw [render, Rendering.venture_bind, renderRoots_arena]

end Template

end Mustache
