import Mustache.Proofs.Walk

namespace Mustache

/-! What is visited stands in sections and in included templates, one in the other. A
level is what one of them does to the scopes, and a visit is enclosed by the levels
that lead to it from the root. -/

variable {State Lambda : Type}

/-- Neither a collection nor a lambda. -/
def Value.isScalar : Value Lambda → Bool
  | .map _ | .list _ | .lambda _ => false
  | _ => true

namespace Walk

/-! ## Levels -/

inductive Level (Lambda : Type) where
  /-- A section over a list, for one element of the list. -/
  | element (item : Value Lambda)
  /-- A section over a map. -/
  | keys (entries : Bindings Lambda)
  /-- A section over a scalar that is true. -/
  | condition
  /-- An inverted section. -/
  | inverse
  /-- An inclusion. -/
  | file (path : Path)

def Level.enter (scopes : Scopes Lambda) : Level Lambda → Scopes Lambda
  | .element item => scopes.bindElement item
  | .keys entries => scopes.bind entries
  | .condition => scopes.child
  | .inverse => scopes
  | .file path => scopes.enterFile path

/-- The node opens other nodes on a level. -/
inductive Opens (surroundings : Surroundings State Lambda) (scopes : Scopes Lambda) :
    Node → Level Lambda → List Node → Prop where
  | element {name body : String} {markers : Markers} {children : List Node} {closeBody : String}
      {closeMarkers : Markers} {items : List (Value Lambda)} {item : Value Lambda}
      (found : scopes.lookup name = .list items) (member : item ∈ items) :
      Opens surroundings scopes
        (.group .section name body markers children closeBody closeMarkers) (.element item) children
  | keys {name body : String} {markers : Markers} {children : List Node} {closeBody : String}
      {closeMarkers : Markers} {entries : Bindings Lambda}
      (found : scopes.lookup name = .map entries) (bound : entries.isEmpty = false) :
      Opens surroundings scopes
        (.group .section name body markers children closeBody closeMarkers) (.keys entries) children
  | condition {name body : String} {markers : Markers} {children : List Node} {closeBody : String}
      {closeMarkers : Markers} (scalar : (scopes.lookup name).isScalar = true)
      (truthy : (scopes.lookup name).isTruthy = true) :
      Opens surroundings scopes
        (.group .section name body markers children closeBody closeMarkers) .condition children
  | inverse {name body : String} {markers : Markers} {children : List Node} {closeBody : String}
      {closeMarkers : Markers} (falsy : (scopes.lookup name).isFalsy = true) :
      Opens surroundings scopes
        (.group .inverted name body markers children closeBody closeMarkers) .inverse children
  | file {name body : String} {markers : Markers} {path : Path} {included : Template}
      (named : path = .ofInclusion scopes.currentFile name surroundings.extension)
      (found : surroundings.store.template? path = some included) :
      Opens surroundings scopes (.leaf .inclusion name body markers) (.file path) included.forest

theorem mem_tasksIn {inner : Task Lambda} {scopes : Scopes Lambda} {nodes : List Node}
    (member : inner ∈ tasksIn scopes nodes) : inner.node ∈ nodes ∧ inner.scopes = scopes := by
  rcases List.mem_map.mp member with ⟨node, listed, rfl⟩
  exact ⟨listed, rfl⟩

section Effects

variable {surroundings : Surroundings State Lambda} {encoding : Encoding} {task inner : Task Lambda}

/-- Whatever a visit opens is opened on a level. -/
theorem Task.exists_level_of_opens {tasks : List (Task Lambda)}
    (effect : task.effect surroundings encoding = .opens tasks) (member : inner ∈ tasks) :
    ∃ level nodes, Opens surroundings task.scopes task.node level nodes ∧ inner.node ∈ nodes ∧
      inner.scopes = level.enter task.scopes := by
  rcases task with ⟨scopes, node⟩
  cases node with
  | plain text markers => cases effect
  | leaf kind text body markers => cases kind <;> cases effect <;> cases member
  | group kind name body markers children closeBody closeMarkers =>
      cases kind with
      | inverted =>
          cases effect
          split at member
          · next falsy => exact ⟨.inverse, children, .inverse falsy, mem_tasksIn member⟩
          · cases member
      | «section» =>
          simp only [Task.effect] at effect
          split at effect
          · next entries found =>
              cases effect
              split at member
              · cases member
              · next bound =>
                  exact ⟨.keys entries, children, .keys found (Bool.eq_false_iff.mpr bound),
                    mem_tasksIn member⟩
          · next items found =>
              cases effect
              rcases List.mem_flatMap.mp member with ⟨item, among, member⟩
              exact ⟨.element item, children, .element found among, mem_tasksIn member⟩
          · cases effect
          · next noMap noList noLambda =>
              cases effect
              split at member
              · next truthy =>
                  have scalar : (scopes.lookup name).isScalar = true := by
                    unfold Value.isScalar
                    split <;> simp_all
                  exact ⟨.condition, children, .condition scalar truthy, mem_tasksIn member⟩
              · cases member

/-- An included template is visited on a level of its own. -/
theorem Task.opens_of_includes {path : Path} {included : Template}
    (effect : task.effect surroundings encoding = .includes path)
    (found : surroundings.store.template? path = some included) :
    Opens surroundings task.scopes task.node (.file path) included.forest := by
  rcases task.inclusion_of_includes effect with ⟨name, body, markers, shape, named⟩
  rw [shape]
  exact .file named found

end Effects

/-! ## Enclosures -/

/-- A visit, and the level on which its node opens others. -/
structure Enclosure (Lambda : Type) where
  tag : Task Lambda
  level : Level Lambda

/-- The levels around a visit in the rendering of a template, from the inside out. -/
inductive Enclosed (surroundings : Surroundings State Lambda) (root : Template)
    (scopes : Scopes Lambda) : Task Lambda → List (Enclosure Lambda) → Prop where
  | root {node : Node} (member : node ∈ root.forest) :
      Enclosed surroundings root scopes ⟨scopes, node⟩ []
  | inside {tag : Task Lambda} {around : List (Enclosure Lambda)} {level : Level Lambda}
      {nodes : List Node} {node : Node} (enclosed : Enclosed surroundings root scopes tag around)
      (opens : Opens surroundings tag.scopes tag.node level nodes) (member : node ∈ nodes) :
      Enclosed surroundings root scopes ⟨level.enter tag.scopes, node⟩ (⟨tag, level⟩ :: around)

end Walk

end Mustache
