import Mustache.Proofs.Subtree
import Mustache.Proofs.Walk.Enclosure
import Mustache.Proofs.Walk.Rendering

namespace Mustache

/-! All that a walk visits and writes comes from templates that the host has
accepted. What is to be visited of a template fits to the template, and visits go
on to fit as the walk goes down into sections and inclusions. -/

variable {State Lambda : Type}

/-! ## The nodes of a template -/

/-- The node stands somewhere in the template, inside of sections or not. -/
def Template.Holds (template : Template) (node : Node) : Prop :=
  ∃ item ∈ template.outline, item.node = node

theorem Node.exists_item_of_mem {node : Node} {forest : List Node} (member : node ∈ forest)
    (parent : Option Nat) (first : Nat) :
    ∃ item ∈ Node.forestOutline parent first forest, item.node = node := by
  induction forest generalizing first with
  | nil => cases member
  | cons head rest induction =>
      rw [Node.forestOutline]
      rcases List.mem_cons.mp member with rfl | member
      · rcases node.outline_head parent first with ⟨item, others, shape, same, -⟩
        exact ⟨item, by simp [shape], same⟩
      · rcases induction member (first + head.count) with ⟨item, listed, same⟩
        exact ⟨item, List.mem_append_right _ listed, same⟩

theorem Template.holds_of_mem {template : Template} {node : Node}
    (member : node ∈ template.forest) : template.Holds node :=
  Node.exists_item_of_mem member none 0

/-- The outline of a section has the items of all that stands in the section. -/
theorem Template.Holds.child {template : Template} {kind : GroupKind} {name body : String}
    {markers : Markers} {children : List Node} {closeBody : String} {closeMarkers : Markers}
    (holds : template.Holds (.group kind name body markers children closeBody closeMarkers))
    {node : Node} (member : node ∈ children) : template.Holds node := by
  rcases holds with ⟨item, listed, same⟩
  rcases List.getElem?_of_mem listed with ⟨number, numbered⟩
  rcases Node.standsIn_forestOutline template.forest numbered with ⟨before, behind, shape, -⟩
  rw [same, Node.outline, Nat.zero_add] at shape
  rcases Node.exists_item_of_mem member (some number) (number + 1) with ⟨inner, inside, equal⟩
  refine ⟨inner, ?_, equal⟩
  rw [Template.outline, shape]
  simp [inside]

/-- The scopes in which a section of a name may render what stands in it. -/
inductive Scopes.Inside (scopes : Scopes Lambda) (name : String) : Scopes Lambda → Prop where
  | same : Inside scopes name scopes
  | child : Inside scopes name scopes.child
  | bind {entries : Bindings Lambda} (found : scopes.lookup name = .map entries) :
      Inside scopes name (scopes.bind entries)
  | bindElement {items : List (Value Lambda)} {item : Value Lambda}
      (found : scopes.lookup name = .list items) (member : item ∈ items) :
      Inside scopes name (scopes.bindElement item)

namespace Walk

/-! ## Effects -/

section Effects

variable {surroundings : Surroundings State Lambda} {encoding : Encoding} {task : Task Lambda}

/-- Only sections open other nodes, and these are the nodes that stand in them. -/
theorem Task.section_of_opens {tasks : List (Task Lambda)}
    (effect : task.effect surroundings encoding = .opens tasks) {inner : Task Lambda}
    (member : inner ∈ tasks) :
    ∃ kind name body markers children closeBody closeMarkers,
      task.node = .group kind name body markers children closeBody closeMarkers ∧
        inner.node ∈ children ∧ task.scopes.Inside name inner.scopes := by
  rcases task with ⟨scopes, node⟩
  rcases Task.exists_level_of_opens effect member with ⟨level, nodes, opens, listed, same⟩
  cases opens with
  | element found among => exact ⟨_, _, _, _, _, _, _, rfl, listed, same ▸ .bindElement found among⟩
  | keys found bound => exact ⟨_, _, _, _, _, _, _, rfl, listed, same ▸ .bind found⟩
  | condition scalar truthy => exact ⟨_, _, _, _, _, _, _, rfl, listed, same ▸ .child⟩
  | inverse falsy => exact ⟨_, _, _, _, _, _, _, rfl, listed, same ▸ .same⟩
  | file named found => cases effect

end Effects

/-! ## Stages -/

/-- A way for tasks to fit to a template that visits keep. -/
structure Kept (surroundings : Surroundings State Lambda) (encoding : Encoding)
    (fits : Template → Task Lambda → Prop) : Prop where
  opened : ∀ {template : Template} {task : Task Lambda} {tasks : List (Task Lambda)},
    fits template task → task.effect surroundings encoding = .opens tasks →
      ∀ inner ∈ tasks, fits template inner
  entered : ∀ {template included : Template} {task : Task Lambda} {path : Path},
    fits template task → task.effect surroundings encoding = .includes path →
      surroundings.store.template? path = some included →
        ∀ inner ∈ tasksIn (task.scopes.enterFile path) included.forest, fits included inner

/-- Every task fits to its template, which the host has accepted. -/
def Stage.Fits (stage : Stage State Lambda) (fits : Template → Task Lambda → Prop)
    (past : List (Act Lambda)) : Prop :=
  ∀ layer ∈ stage.inner :: stage.outer,
    .inspected layer.template (.ok ()) ∈ past ∧ ∀ task ∈ layer.tasks, fits layer.template task

/-- What is visited and what is written comes from a task that fits to a template,
which the host has accepted. -/
def Act.Sourced (surroundings : Surroundings State Lambda) (encoding : Encoding)
    (fits : Template → Task Lambda → Prop) (past : List (Act Lambda)) : Act Lambda → Prop
  | .visited template task => .inspected template (.ok ()) ∈ past ∧ fits template task
  | .wrote template node fragment =>
    .inspected template (.ok ()) ∈ past ∧ ∃ task encode text, fits template task ∧
      task.node = node ∧ task.effect surroundings encoding = .writes encode text ∧
        fragment = encode text
  | _ => True

theorem Stage.Fits.later {stage : Stage State Lambda} {fits : Template → Task Lambda → Prop}
    {past : List (Act Lambda)} (fit : stage.Fits fits past) (acts : List (Act Lambda)) :
    stage.Fits fits (past ++ acts) := by
  intro layer member
  rcases fit layer member with ⟨accepted, each⟩
  exact ⟨List.mem_append_left acts accepted, each⟩

/-- A task is taken and the host changes; what is left still fits. -/
theorem Stage.Fits.take {template : Template} {task : Task Lambda} {rest : List (Task Lambda)}
    {outer : List (Layer Lambda)} {host : State} {fits : Template → Task Lambda → Prop}
    {past : List (Act Lambda)}
    (fit : (⟨⟨template, task :: rest⟩, outer, host⟩ : Stage State Lambda).Fits fits past)
    (after : State) : (⟨⟨template, rest⟩, outer, after⟩ : Stage State Lambda).Fits fits past := by
  intro layer member
  rcases List.mem_cons.mp member with rfl | member
  · rcases fit _ List.mem_cons_self with ⟨accepted, each⟩
    exact ⟨accepted, fun inner among => each inner (List.mem_cons_of_mem task among)⟩
  · exact fit layer (List.mem_cons_of_mem _ member)

section Sourced

variable {surroundings : Surroundings State Lambda} {encoding : Encoding}
  {fits : Template → Task Lambda → Prop} {past acts : List (Act Lambda)}

theorem Performs.sourced (kept : Kept surroundings encoding fits) {stage : Stage State Lambda}
    {task : Task Lambda} {turn : Turn State Lambda} (fit : stage.Fits fits past)
    (own : fits stage.inner.template task)
    (performs : Performs surroundings encoding stage task acts turn) :
    Throughout (Act.Sourced surroundings encoding fits) past acts ∧
      ∀ next, turn = .goOn next → next.Fits fits (past ++ acts) := by
  have accepted := (fit stage.inner List.mem_cons_self).1
  cases performs with
  | @writes encode text effect =>
      constructor
      · unfold written
        split
        · exact throughout_nil past
        · rw [throughout_cons]
          exact ⟨⟨accepted, task, encode, text, own, rfl, effect, rfl⟩, throughout_nil _⟩
      · rintro _ ⟨⟩
        exact fit.later _
  | @opens tasks effect =>
      refine ⟨throughout_nil past, ?_⟩
      rintro _ ⟨⟩ layer member
      rcases List.mem_cons.mp member with rfl | member
      · refine ⟨List.mem_append_left _ accepted, fun inner among => ?_⟩
        rcases List.mem_append.mp among with among | among
        · exact kept.opened own effect inner among
        · exact (fit stage.inner List.mem_cons_self).2 inner among
      · exact fit.later _ layer (List.mem_cons_of_mem _ member)
  | tooDeep effect deep => exact ⟨throughout_nil past, nofun⟩
  | unresolved effect shallow lost =>
      constructor
      · simp [Act.Sourced]
      · rintro _ ⟨⟩
        exact fit.later _
  | faulty effect shallow found parsed => exact ⟨by simp [Act.Sourced], nofun⟩
  | denied effect shallow found parsed verdict => exact ⟨by simp [Act.Sourced], nofun⟩
  | @enters path text template host effect shallow found parsed verdict =>
      refine ⟨by simp [Act.Sourced], ?_⟩
      rintro _ ⟨⟩ layer member
      rcases List.mem_cons.mp member with rfl | member
      · exact ⟨by simp, kept.entered own effect (Store.template?_of_parsed found parsed)⟩
      · exact fit.later _ layer member

theorem Steps.sourced (kept : Kept surroundings encoding fits) {stage : Stage State Lambda}
    {turn : Turn State Lambda} (fit : stage.Fits fits past)
    (steps : Steps surroundings encoding stage acts turn) :
    Throughout (Act.Sourced surroundings encoding fits) past acts ∧
      ∀ next, turn = .goOn next → next.Fits fits (past ++ acts) := by
  cases steps with
  | done => exact ⟨throughout_nil past, nofun⟩
  | leave =>
      refine ⟨by simp [Act.Sourced], ?_⟩
      rintro _ ⟨⟩ layer member
      exact fit.later _ layer (List.mem_cons_of_mem _ member)
  | @quiet template task rest outer host acts turn silent performs =>
      rcases fit _ List.mem_cons_self with ⟨accepted, each⟩
      have own := each task List.mem_cons_self
      rcases performs.sourced kept ((fit.take host).later [.visited template task]) own with
        ⟨sourced, next⟩
      rw [List.append_assoc] at next
      exact ⟨by simp [Act.Sourced, accepted, own, sourced], next⟩
  | refused consults answer =>
      rcases fit _ List.mem_cons_self with ⟨accepted, each⟩
      exact ⟨by simp [Act.Sourced, accepted, each], nofun⟩
  | @granted template task rest outer host after acts turn consults answer performs =>
      rcases fit _ List.mem_cons_self with ⟨accepted, each⟩
      have own := each task List.mem_cons_self
      rcases performs.sourced kept
        ((fit.take after).later [.visited template task, .asked true]) own with ⟨sourced, next⟩
      rw [List.append_assoc] at next
      exact ⟨by simp [Act.Sourced, accepted, own, sourced], next⟩

end Sourced

/-! ## Fragments -/

/-- A fragment with the node that wrote it and the template of that node. -/
structure Credit where
  template : Template
  node : Node
  fragment : String

/-- The credits in the open outputs, the innermost first, follow the fragments. -/
def Credit.collect : List (List Credit) → Act Lambda → List (List Credit)
  | outputs, .entered _ => [] :: outputs
  | output :: outer, .wrote template node fragment =>
    (output ++ [⟨template, node, fragment⟩]) :: outer
  | inner :: output :: outer, .left => (output ++ inner) :: outer
  | outputs, _ => outputs

/-- The credits of the fragments that have come to the outermost output. -/
def credits (acts : List (Act Lambda)) : List Credit :=
  (acts.foldl Credit.collect [[]]).getLastD []

/-- The act with another fragment in the place of the one that it writes. -/
def Act.rewrite (fragment : Credit → String) : Act Lambda → Act Lambda
  | .wrote template node written => .wrote template node (fragment ⟨template, node, written⟩)
  | act => act

theorem collect_rewrite (fragment : Credit → String) (outputs : List (List Credit))
    (act : Act Lambda) :
    collect (outputs.map (List.map fragment)) (act.rewrite fragment) =
      (Credit.collect outputs act).map (List.map fragment) := by
  cases act <;> rcases outputs with _ | ⟨first, _ | ⟨second, outer⟩⟩ <;>
    simp [collect, Credit.collect, Act.rewrite]

theorem foldl_collect_rewrite (fragment : Credit → String) (acts : List (Act Lambda))
    (outputs : List (List Credit)) :
    (acts.map (Act.rewrite fragment)).foldl collect (outputs.map (List.map fragment)) =
      (acts.foldl Credit.collect outputs).map (List.map fragment) := by
  induction acts generalizing outputs with
  | nil => rfl
  | cons act acts induction =>
      rw [List.map_cons, List.foldl_cons, List.foldl_cons, collect_rewrite, induction]

theorem fragments_rewrite (fragment : Credit → String) (acts : List (Act Lambda)) :
    fragments (acts.map (Act.rewrite fragment)) = (credits acts).map fragment := by
  have outputs := foldl_collect_rewrite fragment acts [[]]
  rw [List.map_singleton, List.map_nil] at outputs
  rw [fragments, credits, outputs, List.getLastD_eq_getLast?, List.getLastD_eq_getLast?,
    List.getLast?_map]
  cases (acts.foldl Credit.collect [[]]).getLast? <;> rfl

theorem fragments_eq_map_credits (acts : List (Act Lambda)) :
    fragments acts = (credits acts).map Credit.fragment := by
  have same : (Act.rewrite Credit.fragment : Act Lambda → Act Lambda) = id := by
    funext act
    cases act <;> rfl
  rw [← fragments_rewrite, same, List.map_id]

theorem mem_of_mem_collect {outputs : List (List Credit)} {act : Act Lambda} {credit : Credit}
    (member : credit ∈ (Credit.collect outputs act).flatten) :
    credit ∈ outputs.flatten ∨ act = .wrote credit.template credit.node credit.fragment := by
  unfold Credit.collect at member
  split at member
  · exact .inl (by simpa using member)
  · next output outer template node added =>
      simp only [List.flatten_cons, List.mem_append, List.mem_singleton] at member ⊢
      rcases member with (before | rfl) | around
      · exact .inl (.inl before)
      · exact .inr rfl
      · exact .inl (.inr around)
  · next inner output outer =>
      simp only [List.flatten_cons, List.mem_append] at member ⊢
      rcases member with (before | inside) | around
      · exact .inl (.inr (.inl before))
      · exact .inl (.inl inside)
      · exact .inl (.inr (.inr around))
  · exact .inl member

theorem mem_of_mem_foldl_collect {acts : List (Act Lambda)} {outputs : List (List Credit)}
    {credit : Credit} (member : credit ∈ (acts.foldl Credit.collect outputs).flatten) :
    credit ∈ outputs.flatten ∨ .wrote credit.template credit.node credit.fragment ∈ acts := by
  induction acts generalizing outputs with
  | nil => exact .inl member
  | cons act acts induction =>
      rcases induction member with earlier | later
      · rcases mem_of_mem_collect earlier with earlier | rfl
        · exact .inl earlier
        · exact .inr List.mem_cons_self
      · exact .inr (List.mem_cons_of_mem act later)

theorem wrote_of_mem_credits {acts : List (Act Lambda)} {credit : Credit}
    (member : credit ∈ credits acts) :
    .wrote credit.template credit.node credit.fragment ∈ acts := by
  have flat : credit ∈ (acts.foldl Credit.collect [[]]).flatten := by
    rw [credits, List.getLastD_eq_getLast?] at member
    cases last : (acts.foldl Credit.collect [[]]).getLast? with
    | none => simp [last] at member
    | some output =>
        rw [last, Option.getD_some] at member
        exact List.mem_flatten.mpr ⟨output, List.mem_of_getLast? last, member⟩
  rcases mem_of_mem_foldl_collect flat with impossible | wrote
  · simp at impossible
  · exact wrote

/-- A fragment that comes to the outermost output has been written by a node. -/
theorem wrote_of_mem_fragments {acts : List (Act Lambda)} {fragment : String}
    (member : fragment ∈ fragments acts) :
    ∃ template node, .wrote template node fragment ∈ acts := by
  rw [fragments_eq_map_credits] at member
  rcases List.mem_map.mp member with ⟨credit, among, rfl⟩
  exact ⟨credit.template, credit.node, wrote_of_mem_credits among⟩

/-! ## Nodes -/

/-- Whatever stands in a template stays with the template that is rendered. -/
theorem kept_holds (surroundings : Surroundings State Lambda) (encoding : Encoding) :
    Kept surroundings encoding fun template task => template.Holds task.node where
  opened := by
    intro template task tasks holds effect inner member
    rcases Task.section_of_opens effect member with
      ⟨kind, name, body, markers, children, closeBody, closeMarkers, shape, listed, -⟩
    rw [shape] at holds
    exact holds.child listed
  entered := by
    intro template included task path holds effect found inner member
    exact Template.holds_of_mem (mem_tasksIn member).1

end Walk

open Walk

theorem Template.Walked.sourced {surroundings : Surroundings State Lambda} {encoding : Encoding}
    {fits : Template → Walk.Task Lambda → Prop} (kept : Kept surroundings encoding fits)
    {template : Template} {scopes : Scopes Lambda}
    (start : ∀ inner ∈ tasksIn scopes template.forest, fits template inner) {state host : State}
    {acts : List (Act Lambda)} {result : Except Error Unit}
    (walked : template.Walked surroundings encoding scopes state acts result host) :
    Throughout (Act.Sourced surroundings encoding fits) [] acts := by
  cases walked with
  | denied verdict => simp [Act.Sourced]
  | entered verdict runs =>
      rw [throughout_cons]
      refine ⟨trivial, runs.throughout (fun _ _ _ _ fit steps => steps.sourced kept fit) ?_⟩
      rintro _ ⟨⟩ layer member
      rcases List.mem_singleton.mp member with rfl
      exact ⟨List.mem_singleton_self _, start⟩

end Mustache
