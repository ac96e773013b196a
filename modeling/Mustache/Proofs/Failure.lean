import Mustache.Proofs.Depth
import Mustache.Proofs.Rendering

namespace Mustache

/-! A rendering fails for one of four causes: the host refuses a template, the host
ends the rendering, templates are included too deep, or an included template has a
fault. A template that cannot be had is none of them. The walk goes on from its tag
as if the tag did not stand there. -/

variable {State Lambda : Type}

theorem Template.template_of_parse_error {name source : String} {fault : Fault}
    (failed : parse name source = .error fault) : fault.template = name := by
  rw [parse] at failed
  split at failed
  · cases failed
  · cases failed
    rfl

namespace Walk

/-- Why a rendering fails, told by its last act and by what host and store say there. -/
inductive Failure (surroundings : Surroundings State Lambda) (root : Template) :
    List (Act Lambda) → Error → Prop where
  /-- The host does not accept the root, or it does not accept a template that has
  just been loaded. -/
  | denied {before : List (Act Lambda)} {source : Template} {state : State} {error : Error}
      (origin : before = [] ∧ source = root ∨ ∃ earlier path,
        before = earlier ++ [.loaded path] ∧ surroundings.store.template? path = some source)
      (verdict : (surroundings.host.inspect source state).1 = .error error) :
      Failure surroundings root (before ++ [.inspected source (.error error)]) error
  | interrupted {before : List (Act Lambda)} {state : State}
      (answer : (surroundings.host.proceed state).1 = false) :
      Failure surroundings root (before ++ [.asked false]) .interrupted
  | tooDeep {acts : List (Act Lambda)} {path : Path}
      (reaches : ReachesLimit surroundings acts path []) :
      Failure surroundings root acts (.tooDeep surroundings.depthLimit path)
  | faulty {before : List (Act Lambda)} {path : Path} {text : String} {fault : Fault}
      (found : surroundings.store.readText path = .ok text)
      (parsed : Template.parse path.text text = .error fault)
      (named : fault.template = path.text) :
      Failure surroundings root (before ++ [.loaded path]) (.fault fault)

/-- A walk from a stage with a task to visit, which the host grants. Behind what comes
of the visit, the walk is one from the stage without the task, to the same end. -/
def GoesOnWithout (surroundings : Surroundings State Lambda) (encoding : Encoding)
    (source : Template) (task : Task Lambda) (behind later : List (Act Lambda))
    (result : Except Error Unit) (host : State) : Prop :=
  ∃ rest outer start after, surroundings.host.proceed start = (true, after) ∧
    Runs surroundings encoding (.goOn ⟨⟨source, task :: rest⟩, outer, start⟩)
      (.visited source task :: .asked true :: behind) result host ∧
    Runs surroundings encoding (.goOn ⟨⟨source, rest⟩, outer, after⟩) later result host

section Steps

variable {surroundings : Surroundings State Lambda} {encoding : Encoding}
  {past acts : List (Act Lambda)} {stage : Stage State Lambda}

/-! ## The step that fails -/

theorem Steps.failure (root : Template) {error : Error} {host : State}
    (measured : stage.Measured surroundings.depthLimit past)
    (steps : Steps surroundings encoding stage acts (.stop (.error error) host)) :
    Failure surroundings root (past ++ acts) error := by
  rcases measured with ⟨counted, within⟩
  cases steps with
  | quiet silent performs =>
      cases performs with
      | tooDeep effect | faulty effect | denied effect =>
          -- Only inclusions fail here, and these consult the host.
          exact absurd (silent.symm.trans (Task.consults_of_includes effect)) (by decide)
  | @refused template task rest outer state after consults answer =>
      have refusal : Failure surroundings root
          ((past ++ [.visited template task]) ++ [.asked false]) .interrupted :=
        .interrupted (congrArg Prod.fst answer)
      rwa [List.append_assoc] at refusal
  | @granted template task rest outer state after acts turn consults answer performs =>
      cases performs with
      | @tooDeep path effect deep =>
          rcases task with ⟨scopes, node⟩
          rcases Task.inclusion_of_includes effect with ⟨name, body, markers, rfl, same⟩
          have full := counted.trans (Nat.le_antisymm within deep)
          exact .tooDeep ⟨past, template, scopes, name, body, markers, rfl, full, same⟩
      | @faulty path text fault effect shallow found parsed =>
          have fault : Failure surroundings root
              ((past ++ [.visited template task, .asked true]) ++ [.loaded path]) (.fault fault) :=
            .faulty found parsed (Template.template_of_parse_error parsed)
          rwa [List.append_assoc] at fault
      | @denied path text source error host effect shallow found parsed verdict =>
          have same := Store.template?_of_parsed found parsed
          have denial : Failure surroundings root
              ((past ++ [.visited template task, .asked true] ++ [.loaded path]) ++
                [.inspected source (.error error)]) error :=
            .denied (.inr ⟨past ++ [.visited template task, .asked true], path, rfl, same⟩)
            (congrArg Prod.fst verdict)
          rwa [List.append_assoc, List.append_assoc] at denial

/-! ## Templates that cannot be had -/

/-- The tag is visited and the host grants it, and nothing comes of it. -/
theorem Steps.passes_over {template : Template} {task : Task Lambda} {path : Path}
    {error : LoadError} {turn : Turn State Lambda}
    (steps : Steps surroundings encoding stage (.visited template task :: acts) turn)
    (effect : task.effect surroundings encoding = .includes path)
    (granted : acts ≠ [.asked false])
    (shallow : stage.outer.length < surroundings.depthLimit)
    (lost : surroundings.store.readText path = .error error) :
    acts = [.asked true, .loaded path, .unresolved path template.name error] ∧
      ∃ rest outer state after, stage = ⟨⟨template, task :: rest⟩, outer, state⟩ ∧
        surroundings.host.proceed state = (true, after) ∧
        turn = .goOn ⟨⟨template, rest⟩, outer, after⟩ := by
  cases steps with
  | quiet silent performs =>
      exact absurd (silent.symm.trans (Task.consults_of_includes effect)) (by decide)
  | refused consults answer => exact absurd rfl granted
  | @granted _ _ rest outer state after acts turn consults answer performs =>
      refine ⟨?_, rest, outer, state, after, rfl, answer, ?_⟩
      all_goals
        cases performs with
        | writes other | opens other => cases effect.symm.trans other
        | tooDeep other deep => exact absurd shallow (Nat.not_lt_of_le deep)
        | faulty other shallow found | denied other shallow found | enters other shallow found =>
            cases effect.symm.trans other
            cases lost.symm.trans found
        | unresolved other shallow missing =>
            cases effect.symm.trans other
            cases lost.symm.trans missing
            rfl

end Steps

end Walk

open Walk

section Walked

variable {surroundings : Surroundings State Lambda} {encoding : Encoding} {template : Template}
  {scopes : Scopes Lambda} {state host : State} {acts : List (Act Lambda)}
  {result : Except Error Unit}

theorem Template.Walked.failure {error : Error}
    (walked : template.Walked surroundings encoding scopes state acts (.error error) host) :
    Failure surroundings template acts error := by
  cases walked with
  | denied verdict => exact .denied (.inl ⟨rfl, rfl⟩) (congrArg Prod.fst verdict)
  | entered verdict runs =>
      rcases runs.last_step Steps.measured_next rfl (measured_root _ _ _ _ _ rfl) with
        ⟨before, last, stage, rfl, measured, steps⟩
      exact steps.failure template measured

theorem Template.Walked.passes_over
    (walked : template.Walked surroundings encoding scopes state acts result host)
    {before behind : List (Act Lambda)} {source : Template} {task : Walk.Task Lambda} {path : Path}
    {error : LoadError}
    (shape : acts = before ++ .visited source task :: .asked true :: behind)
    (effect : task.effect surroundings encoding = .includes path)
    (shallow : opened before < surroundings.depthLimit)
    (lost : surroundings.store.readText path = .error error) :
    ∃ later, behind = .loaded path :: .unresolved path source.name error :: later ∧
      GoesOnWithout surroundings encoding source task behind later result host := by
  rcases walked.step_of_visited Steps.measured_next (measured_root _ _ _) shape with
    ⟨stage, others, turn, later, ⟨counted, within⟩, steps, goesOn, split⟩
  have room : stage.outer.length < surroundings.depthLimit := by
    rw [← counted]
    exact shallow
  have granted : others ≠ [.asked false] := by
    rintro rfl
    cases split
  rcases steps.passes_over effect granted room lost with
    ⟨rfl, rest, outer, start, after, rfl, answer, rfl⟩
  cases split
  exact ⟨later, rfl, rest, outer, start, after, answer, .goOn steps goesOn, goesOn⟩

end Walked

/-! ## Templates that are rendered alone -/

section Alone

variable {call : Lambda → String → Scopes Lambda → String} {encoding : Encoding}

theorem Surroundings.readText_alone (path : Path) (text : String) :
    (Surroundings.alone call).store.readText path ≠ .ok text :=
  nofun

/-- Where nothing can be loaded, no template is opened inside the root. -/
theorem Walk.Steps.outer_alone (_ : List (Act Lambda)) (stage : Stage Unit Lambda)
    (acts : List (Act Lambda)) (next : Stage Unit Lambda) (root : stage.outer = [])
    (steps : Steps (.alone call) encoding stage acts (.goOn next)) : next.outer = [] := by
  cases steps with
  | leave => cases root
  | quiet _ performs | granted _ _ performs =>
      cases performs with
      | enters effect shallow found => exact absurd found (Surroundings.readText_alone _ _)
      | _ => exact root

theorem Template.Walked.ok_alone {template : Template} {scopes : Scopes Lambda}
    {acts : List (Act Lambda)} {result : Except Error Unit}
    (walked : template.Walked (.alone call) encoding scopes () acts result ()) :
    result = .ok () := by
  cases result with
  | ok done => rfl
  | error error =>
      cases walked with
      | denied verdict => cases verdict
      | entered verdict runs =>
          rcases @Runs.last_step _ _ _ _ _ Steps.outer_alone _ _ _ _ runs [] _ rfl rfl with
            ⟨before, last, stage, -, root, steps⟩
          cases steps with
          | refused consults answer => cases answer
          | quiet _ performs | granted _ _ performs =>
              cases performs with
              | tooDeep effect deep =>
                  rw [root] at deep
                  cases deep
              | faulty effect shallow found | denied effect shallow found =>
                  exact absurd found (Surroundings.readText_alone _ _)

end Alone

namespace Template

theorem renderAlone_ok (call : Lambda → String → Scopes Lambda → String) (template : Template)
    (scopes : Scopes Lambda) (progress : Progress Unit) :
    ∃ after, template.renderAlone call scopes progress = .ok () after := by
  rcases template.walked_render (.alone call) scopes progress with
    ⟨acts, result, host, walked, renders⟩
  rw [walked.ok_alone] at renders
  exact ⟨_, renders⟩

theorem renderToString_ok (call : Lambda → String → Scopes Lambda → String) (template : Template)
    (scopes : Scopes Lambda) : ∃ text, template.renderToString call scopes = .ok text := by
  rcases template.renderAlone_ok call scopes ⟨.empty .html, (), #[]⟩ with ⟨after, renders⟩
  refine ⟨after.output.text, ?_⟩
  rw [renderToString, EStateM.run, renders]

/-- A rendering fails for one of four causes only. A template that cannot be had is
passed over: nothing is written, and the walk goes on as if its tag did not stand
there. So a template that is rendered alone never fails. -/
theorem render_fails_for_cause (surroundings : Surroundings State Lambda) (template : Template)
    (scopes : Scopes Lambda) (progress : Progress State) :
    (∃ acts result host,
      template.render surroundings scopes progress =
          Rendering.ended result (progress.after acts (fragments acts) host) ∧
        template.Walked surroundings progress.output.encoding scopes progress.host acts result
          host ∧
        (∀ error, result = .error error → Failure surroundings template acts error) ∧
        ∀ before source places name body markers path behind error,
          acts = before ++
            .visited source ⟨places, .leaf .inclusion name body markers⟩ :: .asked true :: behind →
          path = .ofInclusion places.currentFile name surroundings.extension →
          opened before < surroundings.depthLimit →
          surroundings.store.readText path = .error error →
          ∃ later, behind = .loaded path :: .unresolved path source.name error :: later ∧
            GoesOnWithout surroundings progress.output.encoding source
              ⟨places, .leaf .inclusion name body markers⟩ behind later result host) ∧
    ∀ call : Lambda → String → Scopes Lambda → String,
      (∀ alone, ∃ after, template.renderAlone call scopes alone = .ok () after) ∧
        ∃ text, template.renderToString call scopes = .ok text := by
  constructor
  · rcases template.walked_render surroundings scopes progress with
      ⟨acts, result, host, walked, renders⟩
    refine ⟨acts, result, host, renders, walked, ?_, ?_⟩
    · rintro error rfl
      exact walked.failure
    · rintro before source places name body markers path behind error shape rfl shallow lost
      exact walked.passes_over shape rfl shallow lost
  · intro call
    exact ⟨template.renderAlone_ok call scopes, template.renderToString_ok call scopes⟩

end Template

end Mustache
