import Mustache.Proofs.Rendering
import Mustache.Proofs.Scopes
import Mustache.Proofs.Walk.Origin
import Mustache.Proofs.Walk.Outcome

namespace Mustache

/-! What the dot means where a section renders its nodes once for each element of a
list. Only an element that is no map has the dot for a name. A map has the names that
are its keys, so that the dot means what it has under that key, and what the dot means
outside of the section if it has no such key. -/

variable {State Lambda : Type}

namespace Walk

/-! ## Levels -/

/-- What a level binds to the dot. -/
def Level.dot? : Level Lambda → Option (Value Lambda)
  | .element (.map entries) | .keys entries => Entries.find? "." entries
  | .element item => some item
  | .condition | .inverse | .file _ => none

theorem Level.dot?_element {item : Value Lambda} (plain : ∀ entries, item ≠ .map entries) :
    (Level.element item).dot? = some item := by
  cases item with
  | map entries => exact absurd rfl (plain entries)
  | _ => rfl

theorem Level.lookup_dot (level : Level Lambda) (scopes : Scopes Lambda) :
    (level.enter scopes).lookup "." = level.dot?.getD (scopes.lookup ".") := by
  have dot : ∀ scopes : Scopes Lambda, scopes.lookup "." = scopes.resolve "." :=
    fun _ => if_pos rfl
  rw [dot, dot]
  cases level with
  | element item => cases item <;> exact Scopes.resolve_enter scopes _ "."
  | inverse => rfl
  | keys entries | condition | file path => exact Scopes.resolve_enter scopes _ "."

section Enclosed

variable {surroundings : Surroundings State Lambda} {root : Template} {scopes : Scopes Lambda}
  {task tag : Task Lambda} {inner outer : List (Enclosure Lambda)} {level : Level Lambda}

/-- Inside of a level, the dot means what the level binds to it, as long as none of
the levels further inside binds it. -/
theorem Enclosed.lookup_dot
    (enclosed : Enclosed surroundings root scopes task (inner ++ ⟨tag, level⟩ :: outer))
    (silent : ∀ enclosure ∈ inner, enclosure.level.dot? = none) :
    task.scopes.lookup "." = level.dot?.getD (tag.scopes.lookup ".") := by
  induction inner generalizing task with
  | nil =>
      cases enclosed with
      | inside enclosed opens member => exact level.lookup_dot tag.scopes
  | cons enclosure inner induction =>
      cases enclosed with
      | inside enclosed opens member =>
          rcases List.forall_mem_cons.mp silent with ⟨unbound, others⟩
          rw [Level.lookup_dot, unbound]
          exact induction enclosed others

/-! ## Visits -/

theorem Enclosed.opened {nodes : List Node} {other : Task Lambda}
    (enclosed : Enclosed surroundings root scopes tag outer)
    (opens : Opens surroundings tag.scopes tag.node level nodes) (member : other.node ∈ nodes)
    (same : other.scopes = level.enter tag.scopes) :
    Enclosed surroundings root scopes other (⟨tag, level⟩ :: outer) := by
  rcases other with ⟨_, node⟩
  cases same
  exact .inside enclosed opens member

/-- Whatever is visited stands in the root, in sections and inclusions. -/
theorem kept_enclosed (surroundings : Surroundings State Lambda) (encoding : Encoding)
    (root : Template) (scopes : Scopes Lambda) :
    Kept surroundings encoding fun _ task =>
      ∃ around, Enclosed surroundings root scopes task around where
  opened := by
    rintro template task tasks ⟨around, enclosed⟩ effect inner member
    rcases Task.exists_level_of_opens effect member with ⟨level, nodes, opens, listed, same⟩
    exact ⟨⟨task, level⟩ :: around, enclosed.opened opens listed same⟩
  entered := by
    rintro template included task path ⟨around, enclosed⟩ effect found inner member
    rcases mem_tasksIn member with ⟨listed, same⟩
    exact ⟨⟨task, .file path⟩ :: around,
      enclosed.opened (Task.opens_of_includes effect found) listed same⟩

end Enclosed

/-- What the dot means to a visit that stands in sections over lists. -/
structure DotNamed (surroundings : Surroundings State Lambda) (root : Template)
    (scopes : Scopes Lambda) (task : Task Lambda) : Prop where
  enclosed : ∃ around, Enclosed surroundings root scopes task around
  /-- An element that is no map is what the dot means, unless a level inside binds it. -/
  of_plain : ∀ inner tag item outer,
    Enclosed surroundings root scopes task (inner ++ ⟨tag, .element item⟩ :: outer) →
    (∀ enclosure ∈ inner, enclosure.level.dot? = none) →
    (∀ entries, item ≠ .map entries) → task.scopes.lookup "." = item
  /-- Without the key, the dot keeps the meaning that it has outside of the section. -/
  of_map : ∀ inner tag entries outer,
    Enclosed surroundings root scopes task (inner ++ ⟨tag, .element (.map entries)⟩ :: outer) →
    (∀ enclosure ∈ inner, enclosure.level.dot? = none) →
    task.scopes.lookup "." = (Entries.find? "." entries).getD (tag.scopes.lookup ".")

theorem Enclosed.dotNamed {surroundings : Surroundings State Lambda} {root : Template}
    {scopes : Scopes Lambda} {task : Task Lambda} {around : List (Enclosure Lambda)}
    (enclosed : Enclosed surroundings root scopes task around) :
    DotNamed surroundings root scopes task where
  enclosed := ⟨around, enclosed⟩
  of_plain := by
    intro inner tag item outer enclosed silent plain
    rw [enclosed.lookup_dot silent, Level.dot?_element plain, Option.getD_some]
  of_map := by
    intro inner tag entries outer enclosed silent
    exact enclosed.lookup_dot silent

end Walk

open Walk

/-- In every rendering, the dot names the element for which a section renders, unless
the element is a map. -/
theorem Template.render_dotNamed (surroundings : Surroundings State Lambda) (template : Template)
    (scopes : Scopes Lambda) (progress : Progress State) :
    ∃ acts result host,
      template.render surroundings scopes progress =
          Rendering.ended result (progress.after acts (fragments acts) host) ∧
        template.Walked surroundings progress.output.encoding scopes progress.host acts result
          host ∧
        ∀ source task, .visited source task ∈ acts →
          DotNamed surroundings template scopes task := by
  rcases template.walked_render surroundings scopes progress with
    ⟨acts, result, host, walked, renders⟩
  refine ⟨acts, result, host, renders, walked, ?_⟩
  intro source task member
  rcases List.append_of_mem member with ⟨before, behind, shape⟩
  have sourced := walked.sourced
    (kept_enclosed surroundings progress.output.encoding template scopes) (by
      intro inner member
      rcases inner with ⟨_, node⟩
      rcases mem_tasksIn member with ⟨listed, rfl⟩
      exact ⟨[], .root listed⟩)
  rcases sourced before _ behind shape with ⟨-, around, enclosed⟩
  exact enclosed.dotNamed

/-! ## A section in a section -/

section Nested

def Node.dot : Node :=
  .leaf .name "." "." .standard

def Node.overB : Node :=
  .group .section "b" "#b" .standard [.dot] "/b" .standard

/-- A section over `a`, in it one over `b`, and in this the dot. -/
def Template.nested : Template :=
  ⟨"page", [.group .section "a" "#a" .standard [.overB] "/a" .standard]⟩

def Surroundings.quiet : Surroundings Unit Unit :=
  .alone fun _ text _ => text

/-- Where both sections render once, the dot is visited on two levels. -/
theorem Template.exists_visit_nested {scopes : Scopes Unit} {item : Value Unit}
    {level : Level Unit} (found : scopes.lookup "a" = .list [item])
    (effect : Task.effect .quiet .html ⟨scopes.bindElement item, .overB⟩ =
      .opens [⟨level.enter (scopes.bindElement item), .dot⟩])
    (opens : Opens .quiet (scopes.bindElement item) .overB level [.dot]) :
    ∃ acts task inner outer,
      nested.Walked .quiet .html scopes () acts (.ok ()) () ∧ .visited nested task ∈ acts ∧
      Enclosed .quiet nested scopes task [⟨inner, level⟩, ⟨outer, .element item⟩] := by
  have outer : Task.effect .quiet .html ⟨scopes, .group .section "a" "#a" .standard [.overB]
      "/a" .standard⟩ = .opens [⟨scopes.bindElement item, .overB⟩] := by
    simp only [Task.effect, found]
    rfl
  have walked : nested.Walked .quiet .html scopes () _ (.ok ()) () :=
    .entered rfl (.goOn (.granted rfl rfl (.opens outer)) (.goOn (.granted rfl rfl (.opens effect))
      (.goOn (.quiet rfl (.writes rfl)) (.goOn .done .stop))))
  refine ⟨_, ⟨level.enter (scopes.bindElement item), .dot⟩, _, _, walked, ?_,
    .inside (.inside (.root List.mem_cons_self) (.element found List.mem_cons_self)
      List.mem_cons_self) opens List.mem_cons_self⟩
  exact List.mem_cons_of_mem _
    (List.mem_append_right _ (List.mem_append_right _ List.mem_cons_self))

/-- An element that is a map without the key leaves the dot to the element around it. -/
theorem Template.render_dotNamed_map :
    let entries : Bindings Unit := [("k", .integer 1)]
    let scopes : Scopes Unit := .root [("a", .list [.text "x"]), ("b", .list [.map entries])]
    ∃ acts task inner outer,
      nested.Walked .quiet .html scopes () acts (.ok ()) () ∧ .visited nested task ∈ acts ∧
      Enclosed .quiet nested scopes task
        [⟨inner, .element (.map entries)⟩, ⟨outer, .element (.text "x")⟩] ∧
      entries.find? "." = none ∧ task.scopes.lookup "." = .text "x" := by
  intro entries scopes
  have found : scopes.lookup "a" = .list [.text "x"] := rfl
  have inner : (scopes.bindElement (.text "x")).lookup "b" = .list [.map entries] := rfl
  rcases exists_visit_nested found rfl (.element inner List.mem_cons_self) with
    ⟨acts, task, inner, outer, walked, visited, enclosed⟩
  refine ⟨acts, task, inner, outer, walked, visited, enclosed, rfl, ?_⟩
  have around : Enclosed .quiet nested scopes task
      ([⟨inner, .element (.map entries)⟩] ++ [⟨outer, .element (.text "x")⟩]) := enclosed
  refine around.lookup_dot fun enclosure member => ?_
  rw [List.mem_singleton.mp member]
  rfl

/-- A section over the truth leaves the dot to the element around it. -/
theorem Template.render_dotNamed_condition :
    let scopes : Scopes Unit := .root [("a", .list [.text "x"]), ("b", .bool true)]
    ∃ acts task inner outer,
      nested.Walked .quiet .html scopes () acts (.ok ()) () ∧ .visited nested task ∈ acts ∧
      Enclosed .quiet nested scopes task [⟨inner, .condition⟩, ⟨outer, .element (.text "x")⟩] ∧
      task.scopes.lookup "." = .text "x" := by
  intro scopes
  have found : scopes.lookup "a" = .list [.text "x"] := rfl
  rcases exists_visit_nested found rfl (.condition rfl rfl) with
    ⟨acts, task, inner, outer, walked, visited, enclosed⟩
  rcases nested.render_dotNamed .quiet scopes ⟨.empty .html, (), #[]⟩ with
    ⟨others, result, host, -, others_walked, named⟩
  rcases walked.unique others_walked with ⟨rfl, -, -⟩
  refine ⟨acts, task, inner, outer, walked, visited, enclosed, ?_⟩
  have around : Enclosed .quiet nested scopes task
      ([⟨inner, .condition⟩] ++ [⟨outer, .element (.text "x")⟩]) := enclosed
  refine (named nested task visited).of_plain _ _ _ _ around (fun enclosure member => ?_) nofun
  rw [List.mem_singleton.mp member]
  rfl

end Nested

end Mustache
