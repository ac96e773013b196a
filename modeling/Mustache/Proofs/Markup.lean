import Mustache.Proofs.Entities
import Mustache.Proofs.Mediation
import Mustache.Proofs.Meaning

namespace Mustache

/-! Data cannot write markup. Where templates leave their names to the encoding for
HTML, the markup of the output is that of the templates, wherever the data may have
come from and however the rendering ends. -/

variable {State Lambda : Type}

/-! ## Data without lambdas -/

namespace Scopes

/-- No name is bound to a lambda or to a value that holds one. -/
def LambdaFree (scopes : Scopes Lambda) : Prop :=
  ∀ scope ∈ scopes.all, Value.entriesLambdaFree scope.locals = true

theorem LambdaFree.enter {scopes : Scopes Lambda} (free : scopes.LambdaFree)
    {scope : Scope Lambda} (own : Value.entriesLambdaFree scope.locals = true) :
    (scopes.enter scope).LambdaFree := by
  intro other member
  rcases List.mem_cons.mp member with rfl | member
  · exact own
  · exact free other member

theorem lambdaFree_resolveIn {chain : List (Scope Lambda)}
    (free : ∀ scope ∈ chain, Value.entriesLambdaFree scope.locals = true) (name : String) :
    (resolveIn name chain).lambdaFree = true := by
  induction chain with
  | nil => rfl
  | cons scope rest induction =>
      rw [resolveIn]
      split
      · next value found =>
          exact Value.lambdaFree_of_find? (free scope List.mem_cons_self) found
      · exact induction fun other member => free other (List.mem_cons_of_mem scope member)

theorem lambdaFree_descend {value : Value Lambda} (free : value.lambdaFree = true)
    (keys : List String) : (descend value keys).lambdaFree = true := by
  induction keys generalizing value with
  | nil => exact free
  | cons key rest induction =>
      have inside := Value.lambdaFree_key? free key
      rw [descend]
      split
      · next found =>
          rw [found] at inside
          exact induction inside
      · rfl

theorem LambdaFree.lookup {scopes : Scopes Lambda} (free : scopes.LambdaFree) (name : String) :
    (scopes.lookup name).lambdaFree = true := by
  unfold Scopes.lookup
  split
  · exact lambdaFree_resolveIn free "."
  · split
    · rfl
    · exact lambdaFree_descend (lambdaFree_resolveIn free _) _

theorem LambdaFree.bindElement {scopes : Scopes Lambda} (free : scopes.LambdaFree)
    {element : Value Lambda} (holds : element.lambdaFree = true) :
    (scopes.bindElement element).LambdaFree := by
  cases element with
  | map entries => exact free.enter holds
  | _ => exact free.enter (by simp [Value.entriesLambdaFree, holds])

theorem LambdaFree.inside {scopes inner : Scopes Lambda} {name : String}
    (free : scopes.LambdaFree) (inside : scopes.Inside name inner) : inner.LambdaFree := by
  have found := free.lookup name
  cases inside with
  | same => exact free
  | child => exact free.enter rfl
  | bind same =>
      rw [same] at found
      exact free.enter found
  | bindElement same member =>
      rw [same] at found
      exact free.bindElement (Value.lambdaFree_of_mem found member)

end Scopes

/-! ## Templates without raw tags -/

/-- The tag writes data as it is. -/
def Node.isRaw : Node → Bool
  | .leaf .unescaped .. | .leaf .triple .. => true
  | _ => false

def Template.Escaping (template : Template) : Prop :=
  ∀ item ∈ template.outline, item.node.isRaw = false

instance (template : Template) : Decidable template.Escaping :=
  List.decidableBAll _ _

theorem Template.Escaping.not_raw {template : Template} (escaping : template.Escaping)
    {node : Node} (holds : template.Holds node) : node.isRaw = false := by
  rcases holds with ⟨item, listed, rfl⟩
  exact escaping item listed

/-- The template is the root of a rendering, or the rendering has loaded it. -/
def Template.UsedIn (template : Template) (store : Store) (root : Template) (loads : List Path) :
    Prop :=
  template = root ∨ ∃ path ∈ loads, store.template? path = some template

/-! ## Fragments -/

namespace Walk

section Fragments

variable {surroundings : Surroundings State Lambda} {encoding : Encoding}

/-- Against data without lambdas, a node that is not raw writes its own text, or it
writes through the encoding. -/
theorem Task.plain_or_encoded {task : Task Lambda} (free : task.scopes.LambdaFree)
    (proper : task.node.isRaw = false) {encode : Encoding} {text : String}
    (effect : task.effect surroundings encoding = .writes encode text) :
    (∃ markers, task.node = .plain (encode text) markers) ∨ encode = encoding := by
  rcases task with ⟨scopes, node⟩
  cases node with
  | plain own markers =>
      cases effect
      exact .inl ⟨markers, rfl⟩
  | leaf kind name body markers =>
      cases kind <;> cases effect
      · exact .inr rfl
      all_goals cases proper
  | group kind name body markers children closeBody closeMarkers =>
      have found := free.lookup name
      cases kind with
      | inverted => cases effect
      | «section» =>
          simp only [Task.effect] at effect
          split at effect
          · cases effect
          · cases effect
          · next lambda same =>
              -- Only a lambda makes a section write, and there is none.
              rw [same] at found
              cases found
          · cases effect

/-- Scopes stay without lambdas as a walk goes down into sections and inclusions. -/
theorem kept_lambdaFree (surroundings : Surroundings State Lambda) (encoding : Encoding) :
    Kept surroundings encoding fun template task =>
      template.Holds task.node ∧ task.scopes.LambdaFree where
  opened := by
    rintro template task tasks ⟨holds, free⟩ effect inner member
    refine ⟨(kept_holds surroundings encoding).opened holds effect inner member, ?_⟩
    rcases Task.section_of_opens effect member with ⟨_, _, _, _, _, _, _, -, -, inside⟩
    exact free.inside inside
  entered := by
    rintro template included task path ⟨holds, free⟩ effect found inner member
    refine ⟨(kept_holds surroundings encoding).entered holds effect found inner member, ?_⟩
    rw [(mem_tasksIn member).2]
    exact free.enter rfl

end Fragments

end Walk

open Walk

/-- The templates that the host has accepted are those that the rendering uses. -/
theorem Walk.Mediated.usedIn {store : Store} {root : Template} {acts : List (Act Lambda)}
    {result : Except Error Unit} (mediated : Mediated store root acts result)
    {template : Template} {verdict : Except Error Unit}
    (inspected : .inspected template verdict ∈ acts) :
    template.UsedIn store root ((events acts).filterMap Event.path?) := by
  rcases List.append_of_mem inspected with ⟨before, behind, shape⟩
  rcases mediated.loaded_of_inspected before template verdict behind shape with
    ⟨-, same⟩ | ⟨earlier, path, rfl, found⟩
  · exact .inl same
  · have loaded : .loaded path ∈ acts := by simp [shape]
    have event : .loaded path ∈ events acts := List.mem_filterMap.mpr ⟨_, loaded, rfl⟩
    exact .inr ⟨path, List.mem_filterMap.mpr ⟨_, event, rfl⟩, found⟩

/-- Whatever the data, the markup in the output is that of the templates. -/
theorem Template.render_html_inert (surroundings : Surroundings State Lambda)
    (template : Template) {scopes : Scopes Lambda} (free : scopes.LambdaFree) (state : State)
    {progress : Progress State}
    (reached : (template.render surroundings scopes).reached ⟨.empty .html, state, #[]⟩ = progress)
    (escaping : ∀ source : Template,
      source.UsedIn surroundings.store template progress.loads → source.Escaping) :
    ∀ fragment ∈ progress.output.fragments,
      (∃ (source : Template) (markers : Markers),
        source.UsedIn surroundings.store template progress.loads ∧
          source.Holds (.plain fragment markers)) ∨
      Encoding.Inert fragment.toList := by
  rcases template.walked_render surroundings scopes ⟨.empty .html, state, #[]⟩ with
    ⟨acts, result, host, walked, renders⟩
  rw [Rendering.reached_of_ended renders] at reached
  subst reached
  have sourced := walked.sourced (kept_lambdaFree surroundings .html) (by
    intro inner member
    rcases mem_tasksIn member with ⟨listed, same⟩
    exact ⟨Template.holds_of_mem listed, same ▸ free⟩)
  intro fragment member
  rw [Progress.fragments_after, List.mem_toArray] at member
  rcases wrote_of_mem_fragments member with ⟨source, node, wrote⟩
  rcases List.append_of_mem wrote with ⟨before, behind, shape⟩
  rcases sourced before _ behind shape with
    ⟨accepted, task, encode, text, ⟨holds, scopesFree⟩, rfl, effect, rfl⟩
  have inspected : .inspected source (.ok ()) ∈ acts := by
    rw [shape]
    exact List.mem_append_left _ accepted
  have used := walked.mediated.usedIn inspected
  rw [← Progress.loads_after] at used
  rcases Task.plain_or_encoded scopesFree ((escaping source used).not_raw holds) effect with
    ⟨markers, same⟩ | rfl
  · exact .inl ⟨source, markers, used, same ▸ holds⟩
  · refine .inr ?_
    exact Encoding.inert_html text

/-- A store with one template, which writes a name. -/
def Surroundings.italic : Surroundings Unit Unit where
  host := .permissive
  store := .ofFiles [(⟨"p"⟩, "<i>\x7b\x7bn\x7d\x7d</i>".toUTF8)]
  call _ text _ := text
  extension := ""
  depthLimit := 1

/-- The page writes the name itself and includes the template that writes it. -/
theorem Template.render_html_inert_italic :
    let page : Template :=
      ⟨"page", [.leaf .name "n" "n" .standard, .leaf .inclusion "p" ">p" .standard]⟩
    let progress := (page.render .italic (.root [("n", .text "<&")])).reached
      ⟨.empty .html, (), #[]⟩
    progress.output.fragments = #["&lt;&amp;", "<i>", "&lt;&amp;", "</i>"] ∧
      ∀ fragment ∈ progress.output.fragments,
        (∃ (source : Template) (markers : Markers),
          source.UsedIn Surroundings.italic.store page progress.loads ∧
            source.Holds (.plain fragment markers)) ∨
        Encoding.Inert fragment.toList := by
  intro page progress
  refine ⟨by decide +kernel, ?_⟩
  have free : (Scopes.root [("n", (.text "<&" : Value Unit))]).LambdaFree := by
    intro scope member
    cases List.mem_singleton.mp member
    rfl
  have loads : progress.loads = [⟨"p"⟩] := by decide +kernel
  have partials : ∀ source ∈ Surroundings.italic.store.template? ⟨"p"⟩, source.Escaping := by
    decide +kernel
  apply page.render_html_inert .italic free () rfl
  rintro source (rfl | ⟨path, loaded, found⟩)
  · decide
  · rw [loads, List.mem_singleton] at loaded
    subst loaded
    exact partials source found

end Mustache
