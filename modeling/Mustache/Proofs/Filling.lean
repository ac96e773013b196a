import Mustache.Engine
import Mustache.Proofs.Nesting
import Mustache.Proofs.Walk.Outcome
import Mustache.Proofs.Walk.Rendering

namespace Mustache

/-! A template that cannot be had is as good as an empty one. Where it is included, the
host is told of it or inspects the empty template, and then the walk goes on from the
same stage with the same fragments. -/

variable {State Lambda : Type}

namespace Store

/-- The store with empty files in place of those that give no text. -/
def filled (store : Store) : Store where
  read path :=
    match store.readText path with
    | .ok _ => store.read path
    | .error _ => .ok .empty

theorem readText_filled_of_text {store : Store} {path : Path} {text : String}
    (read : store.readText path = .ok text) : store.filled.readText path = .ok text := by
  have same : store.filled.read path = store.read path := by
    simp only [filled, read]
  rw [readText, same]
  exact read

theorem readText_filled_of_error {store : Store} {path : Path} {error : LoadError}
    (lost : store.readText path = .error error) : store.filled.readText path = .ok "" := by
  have empty : store.filled.read path = .ok .empty := by
    simp only [filled, lost]
  rw [readText, empty]
  rfl

end Store

theorem Template.parse_empty (name : String) : parse name "" = .ok ⟨name, []⟩ :=
  parse_eq_ok_iff.mpr ⟨rfl, [], rfl, .nil, rfl⟩

/-- The same surroundings, in which every template can be had. -/
def Surroundings.filled (surroundings : Surroundings State Lambda) :
    Surroundings State Lambda :=
  { surroundings with store := surroundings.store.filled }

def Engine.filled (engine : Engine) : Engine :=
  { engine with store := engine.store.filled }

/-- An empty template passes the host, which does not remember it. -/
def Host.PassesEmpty (host : Host State Lambda) : Prop :=
  ∀ name state, host.inspect ⟨name, []⟩ state = (.ok (), state)

namespace Walk

/-! ## The same fragments -/

/-- Behind the two lists of acts, the same fragments are in the open outputs. -/
def SameFragments (acts others : List (Act Lambda)) : Prop :=
  ∀ output outer, acts.foldl collect (output :: outer) = others.foldl collect (output :: outer)

/-- The output that is open outermost stays open. -/
theorem exists_foldl_collect (acts : List (Act Lambda)) (output : List String)
    (outer : List (List String)) :
    ∃ output' outer', acts.foldl collect (output :: outer) = output' :: outer' := by
  induction acts generalizing output outer with
  | nil => exact ⟨output, outer, rfl⟩
  | cons act rest induction =>
      rw [List.foldl_cons]
      cases act with
      | left =>
          cases outer with
          | nil => exact induction output []
          | cons around outer => exact induction (around ++ output) outer
      | _ => exact induction _ _

namespace SameFragments

variable {acts others later more : List (Act Lambda)}

theorem refl (acts : List (Act Lambda)) : SameFragments acts acts :=
  fun _ _ => rfl

theorem append (first : SameFragments acts others) (second : SameFragments later more) :
    SameFragments (acts ++ later) (others ++ more) := by
  intro output outer
  rw [List.foldl_append, List.foldl_append, first]
  rcases exists_foldl_collect others output outer with ⟨output', outer', reached⟩
  rw [reached, second]

theorem fragments_eq (same : SameFragments acts others) : fragments acts = fragments others := by
  rw [fragments, same, fragments]

end SameFragments

/-! ## Walks in the filled store -/

section Filled

variable {surroundings : Surroundings State Lambda} {encoding : Encoding}
  {stage : Stage State Lambda} {task : Task Lambda} {acts : List (Act Lambda)}
  {turn : Turn State Lambda} {result : Except Error Unit} {host : State}

theorem Performs.filled (passes : surroundings.host.PassesEmpty)
    (performs : Performs surroundings encoding stage task acts turn) :
    Performs surroundings.filled encoding stage task acts turn ∨
      ∃ others name, turn = .goOn stage ∧ SameFragments acts (others ++ [.left]) ∧
        Performs surroundings.filled encoding stage task others
          (.goOn ⟨⟨⟨name, []⟩, []⟩, stage.inner :: stage.outer, stage.host⟩) := by
  cases performs with
  | writes effect => exact .inl (.writes effect)
  | opens effect => exact .inl (.opens effect)
  | tooDeep effect deep => exact .inl (.tooDeep effect deep)
  | faulty effect shallow found parsed =>
      exact .inl (.faulty effect shallow (Store.readText_filled_of_text found) parsed)
  | denied effect shallow found parsed verdict =>
      exact .inl (.denied effect shallow (Store.readText_filled_of_text found) parsed verdict)
  | enters effect shallow found parsed verdict =>
      exact .inl (.enters effect shallow (Store.readText_filled_of_text found) parsed verdict)
  | @unresolved path error effect shallow lost =>
      refine .inr ⟨_, path.text, rfl, ?_, .enters effect shallow
        (Store.readText_filled_of_error lost) (Template.parse_empty _) (passes _ _)⟩
      intro output outer
      exact congrArg (· :: outer) (List.append_nil output).symm

/-- A step in the store is one or two steps in the filled store. -/
theorem Steps.filled (passes : surroundings.host.PassesEmpty)
    (steps : Steps surroundings encoding stage acts turn) :
    ∃ others, SameFragments acts others ∧ ∀ later result host,
      Runs surroundings.filled encoding turn later result host →
        Runs surroundings.filled encoding (.goOn stage) (others ++ later) result host := by
  cases steps with
  | done => exact ⟨[], .refl _, fun _ _ _ => .goOn .done⟩
  | leave => exact ⟨[.left], .refl _, fun _ _ _ => .goOn .leave⟩
  | refused consults answer =>
      exact ⟨_, .refl _, fun _ _ _ => .goOn (.refused consults answer)⟩
  | quiet silent performs =>
      rcases performs.filled passes with performs | ⟨others, name, rfl, same, performs⟩
      · exact ⟨_, .refl _, fun _ _ _ => .goOn (.quiet silent performs)⟩
      · refine ⟨_, (SameFragments.refl [_]).append same, fun later result host runs => ?_⟩
        have entered : Runs surroundings.filled _ _ _ _ _ :=
          .goOn (.quiet silent performs) (.goOn .leave runs)
        simpa using entered
  | granted consults answer performs =>
      rcases performs.filled passes with performs | ⟨others, name, rfl, same, performs⟩
      · exact ⟨_, .refl _, fun _ _ _ => .goOn (.granted consults answer performs)⟩
      · refine ⟨_, (SameFragments.refl [_, _]).append same, fun later result host runs => ?_⟩
        have entered : Runs surroundings.filled _ _ _ _ _ :=
          .goOn (.granted consults answer performs) (.goOn .leave runs)
        simpa using entered

theorem Runs.filled (passes : surroundings.host.PassesEmpty)
    (runs : Runs surroundings encoding turn acts result host) :
    ∃ others, SameFragments acts others ∧
      Runs surroundings.filled encoding turn others result host := by
  induction runs with
  | stop => exact ⟨[], .refl _, .stop⟩
  | goOn steps _ induction =>
      rcases induction with ⟨later, same, runs⟩
      rcases steps.filled passes with ⟨others, first, goesOn⟩
      exact ⟨others ++ later, first.append same, goesOn _ _ _ runs⟩

end Filled

end Walk

open Walk

namespace Template

variable {surroundings : Surroundings State Lambda} {encoding : Encoding} {template : Template}
  {scopes : Scopes Lambda} {state host : State} {acts : List (Act Lambda)}
  {result : Except Error Unit}

theorem Walked.filled (passes : surroundings.host.PassesEmpty)
    (walked : template.Walked surroundings encoding scopes state acts result host) :
    ∃ others, SameFragments acts others ∧
      template.Walked surroundings.filled encoding scopes state others result host := by
  cases walked with
  | denied verdict => exact ⟨_, .refl _, .denied verdict⟩
  | entered verdict runs =>
      rcases runs.filled passes with ⟨others, same, runs⟩
      exact ⟨_, (SameFragments.refl [_]).append same, .entered verdict runs⟩

variable (surroundings) in
/-- Templates that cannot be had change nothing but the journal. -/
theorem render_filled (passes : surroundings.host.PassesEmpty) (template : Template)
    (scopes : Scopes Lambda) (progress : Progress State) :
    ∃ acts others result host, fragments acts = fragments others ∧
      template.render surroundings scopes progress =
        Rendering.ended result (progress.after (acts : List (Act Lambda)) (fragments acts) host) ∧
      template.render surroundings.filled scopes progress =
        Rendering.ended result
          (progress.after (others : List (Act Lambda)) (fragments others) host) := by
  rcases template.walked_render surroundings scopes progress with
    ⟨acts, result, host, walked, rendered⟩
  rcases template.walked_render surroundings.filled scopes progress with
    ⟨others, result', host', walked', rendered'⟩
  rcases walked.filled passes with ⟨others', same, filled⟩
  rcases filled.unique walked' with ⟨rfl, rfl, rfl⟩
  exact ⟨acts, others', result, host, same.fragments_eq, rendered, rendered'⟩

end Template

end Mustache
