import Mustache.Proofs.Walk

namespace Mustache

/-! A rendering follows its walk. The fragments it writes, what it adds to its
journal, the host it leaves and how it ends are all told by the acts of the walk,
and the walk comes to an end. The induction is on the depth that is left for
inclusions and, inside of it, on the tree of a template. -/

variable {State Lambda : Type}

/-- The progress after some acts, of which some fragments have come to its output. -/
def Progress.after (progress : Progress State) (acts : List (Walk.Act Lambda))
    (written : List String) (host : State) : Progress State where
  output := { progress.output with fragments := progress.output.fragments ++ written.toArray }
  host := host
  journal := progress.journal ++ (Walk.events acts).toArray

/-- The path that has been loaded, if the event is that. -/
def Event.path? : Event → Option Path
  | .loaded path => some path
  | _ => none

/-- The template that the host has inspected, if the event is that. -/
def Event.template? : Event → Option Template
  | .inspected template => some template
  | _ => none

/-- The paths that have been loaded, in their order. -/
def Progress.loads (progress : Progress State) : List Path :=
  progress.journal.toList.filterMap Event.path?

/-- The templates that the host has inspected, in their order. -/
def Progress.inspections (progress : Progress State) : List Template :=
  progress.journal.toList.filterMap Event.template?

/-- The way in which a rendering ends. -/
def Rendering.ended (result : Except Error Unit) (progress : Progress State) :
    EStateM.Result Error (Progress State) Unit :=
  match result with
  | .ok () => .ok () progress
  | .error error => .error error progress

/-- The progress with which a step ends, well or not. -/
def Rendering.reached (step : Rendering State Unit) (progress : Progress State) : Progress State :=
  match step progress with
  | .ok () after => after
  | .error _ after => after

namespace Rendering

theorem reached_of_ended {step : Rendering State Unit} {progress after : Progress State}
    {result : Except Error Unit} (ends : step progress = ended result after) :
    reached step progress = after := by
  rw [reached, ends]
  cases result <;> rfl

section Bind

variable {α β : Type} {first : Rendering State α} {next : α → Rendering State β}
  {progress after : Progress State}

theorem bind_of_ok {value : α} (steps : first progress = .ok value after) :
    (first >>= next) progress = next value after := by
  change EStateM.bind first next progress = _
  rw [EStateM.bind, steps]

theorem bind_of_error {error : Error} (steps : first progress = .error error after) :
    (first >>= next) progress = .error error after := by
  change EStateM.bind first next progress = _
  rw [EStateM.bind, steps]

theorem bind_get (next : Progress State → Rendering State β) (progress : Progress State) :
    (get >>= next) progress = next progress progress :=
  rfl

end Bind

end Rendering

namespace Walk

/-! ## Acts and fragments -/

theorem events_append (acts later : List (Act Lambda)) :
    events (acts ++ later) = events acts ++ events later :=
  List.filterMap_append

theorem events_written (template : Template) (node : Node) (encode : Encoding) (text : String) :
    events (written template node encode text : List (Act Lambda)) = [] := by
  unfold written
  split <;> rfl

/-- The acts write the fragments to the output that is innermost before them. They
leave the outputs in `inner` open inside of it. -/
def Collects (acts : List (Act Lambda)) (inner : List (List String)) (written : List String) :
    Prop :=
  ∀ output outer, acts.foldl collect (output :: outer) = inner ++ (output ++ written) :: outer

theorem collects_nil : Collects ([] : List (Act Lambda)) [] [] := by
  intro output outer
  simp

theorem Collects.append {acts later : List (Act Lambda)} {inner : List (List String)}
    {written more : List String} (first : Collects acts [] written)
    (second : Collects later inner more) : Collects (acts ++ later) inner (written ++ more) := by
  intro output outer
  rw [List.foldl_append, first, List.nil_append, second, List.append_assoc]

/-- An act that neither writes nor opens or leaves an output. -/
theorem Collects.cons {act : Act Lambda} {acts : List (Act Lambda)} {inner : List (List String)}
    {written : List String} (rest : Collects acts inner written)
    (silent : ∀ output outer, collect (output :: outer) act = output :: outer) :
    Collects (act :: acts) inner written := by
  intro output outer
  rw [List.foldl_cons, silent, rest]

theorem collects_written (template : Template) (node : Node) (encode : Encoding) (text : String) :
    Collects (written template node encode text : List (Act Lambda)) []
      (if text.isEmpty then [] else [encode text]) := by
  intro output outer
  unfold written
  split
  · simp
  · rfl

/-- What is written inside an included template comes to the output around it when
the template is left. -/
theorem Collects.inside {template : Template} {acts : List (Act Lambda)} {written : List String}
    (body : Collects acts [] written) :
    Collects (.entered template :: acts ++ [.left]) [] written := by
  intro output outer
  rw [List.cons_append, List.foldl_cons, List.foldl_append]
  change List.foldl collect (acts.foldl collect ([] :: output :: outer)) [.left] = _
  rw [body, List.nil_append, List.nil_append]
  rfl

theorem events_inside (template : Template) (acts : List (Act Lambda)) :
    events (.entered template :: acts ++ [.left]) = events acts := by
  change events (acts ++ [.left]) = events acts
  rw [events_append]
  exact List.append_nil _

theorem Collects.unfinished {template : Template} {acts : List (Act Lambda)}
    {inner : List (List String)} {written : List String} (body : Collects acts inner written) :
    Collects (.entered template :: acts) (inner ++ [written]) [] := by
  intro output outer
  rw [List.foldl_cons]
  change acts.foldl collect ([] :: output :: outer) = _
  rw [body, List.nil_append, List.append_nil, List.append_assoc]
  rfl

theorem Collects.fragments_eq {acts : List (Act Lambda)} {inner : List (List String)}
    {written : List String} (collects : Collects acts inner written) :
    fragments acts = written := by
  rw [fragments, collects, List.nil_append, List.getLastD_eq_getLast?, List.getLast?_concat,
    Option.getD_some]

/-! ## Progress -/

theorem after_nil (progress : Progress State) :
    progress.after ([] : List (Act Lambda)) [] progress.host = progress := by
  simp [Progress.after, events]

theorem after_after (progress : Progress State) (acts later : List (Act Lambda))
    (written more : List String) (between host : State) :
    (progress.after acts written between).after later more host =
      progress.after (acts ++ later) (written ++ more) host := by
  simp [Progress.after, events_append]

theorem after_single {act : Act Lambda} {event : Event} (told : act.event? = some event)
    (progress : Progress State) (host : State) :
    progress.after [act] [] host = ⟨progress.output, host, progress.journal.push event⟩ := by
  simp [Progress.after, events, told]

theorem after_silent {act : Act Lambda} (told : act.event? = none) (progress : Progress State) :
    progress.after [act] [] progress.host = progress := by
  simp [Progress.after, events, told]

/-- What the last act tells is the last in the journal. -/
theorem back?_after {act : Act Lambda} {event : Event} (told : act.event? = some event)
    (progress : Progress State) (before : List (Act Lambda)) (written : List String)
    (host : State) :
    (progress.after (before ++ [act]) written host).journal.back? = some event := by
  simp [Progress.after, events, told]

end Walk

namespace Rendering

open Walk

/-! ## What single steps do -/

theorem note_eq {act : Act Lambda} {event : Event} (told : act.event? = some event)
    (progress : Progress State) :
    note event progress = .ok () (progress.after [act] [] progress.host) := by
  rw [after_single told]
  rfl

theorem consult_eq {host : Host State Lambda} {progress : Progress State} {granted : Bool}
    {state : State} (answer : host.proceed progress.host = (granted, state)) :
    consult host progress = ended (if granted then .ok () else .error .interrupted)
      (progress.after ([.asked granted] : List (Act Lambda)) [] state) := by
  rw [after_single rfl]
  rcases progress with ⟨output, before, journal⟩
  unfold consult
  rw [bind_get]
  simp only [answer]
  cases granted <;> rfl

theorem inspect_eq {host : Host State Lambda} {template : Template} {progress : Progress State}
    {verdict : Except Error Unit} {state : State}
    (answer : host.inspect template progress.host = (verdict, state)) :
    inspect host template progress = ended verdict
      (progress.after ([.inspected template verdict] : List (Act Lambda)) [] state) := by
  rw [after_single rfl]
  rcases progress with ⟨output, before, journal⟩
  unfold inspect
  rw [bind_get]
  simp only [answer]
  cases verdict <;> rfl

theorem writeRaw_eq (text : String) (progress : Progress State) :
    writeRaw text progress = .ok () (progress.after ([] : List (Act Lambda))
      (if text.isEmpty then [] else [text]) progress.host) := by
  change EStateM.Result.ok () { progress with output := progress.output.appendRaw text } = _
  unfold Output.appendRaw
  split <;> simp [Progress.after, events]

theorem write_eq (text : String) (progress : Progress State) :
    write text progress = .ok () (progress.after ([] : List (Act Lambda))
      (if text.isEmpty then [] else [progress.output.encoding text]) progress.host) := by
  change EStateM.Result.ok () { progress with output := progress.output.append text } = _
  unfold Output.append
  split <;> simp [Progress.after, events]

theorem apart_of_ok {step : Rendering State Unit} {progress : Progress State}
    {acts : List (Act Lambda)} {written : List String} {host : State}
    (steps : step { progress with output := progress.output.fork } =
      .ok () (Progress.after { progress with output := progress.output.fork } acts written host)) :
    apart step progress = .ok () (progress.after acts written host) := by
  unfold apart
  rw [steps]
  simp [Progress.after, Output.fork, Output.splice, Output.empty]

theorem apart_of_error {step : Rendering State Unit} {progress : Progress State}
    {acts : List (Act Lambda)} {written : List String} {host : State} {error : Error}
    (steps : step { progress with output := progress.output.fork } =
      .error error
        (Progress.after { progress with output := progress.output.fork } acts written host)) :
    apart step progress = .error error (progress.after acts [] host) := by
  unfold apart
  rw [steps]
  simp [Progress.after]

end Rendering

/-- An inclusion that is not too deep begins with loading its path. -/
theorem Template.renderInclusion_eq (surroundings : Surroundings State Lambda) (depth : Nat)
    (includer name : String) (scopes : Scopes Lambda) (progress : Progress State) {path : Path}
    (resolved : .ofInclusion scopes.currentFile name surroundings.extension = path) :
    renderInclusion surroundings (depth + 1) includer name scopes progress =
      (match surroundings.store.readText path with
        | .error error => Rendering.note (.unresolved path includer error)
        | .ok text =>
          match parse path.text text with
          | .error fault => throw (Error.fault fault)
          | .ok template =>
            Rendering.inspect surroundings.host template >>= fun _ =>
              Rendering.apart (Node.renderForest surroundings
                (renderInclusion surroundings depth template.name) (scopes.enterFile path)
                template.forest))
        (progress.after ([.loaded path] : List (Walk.Act Lambda)) [] progress.host) := by
  subst resolved
  rw [Walk.after_single rfl, renderInclusion]
  rfl

namespace Walk

/-! ## Steps and walks -/

/-- A template that is being rendered, those around it and what all of it takes
place in. -/
structure Place (State Lambda : Type) where
  surroundings : Surroundings State Lambda
  encoding : Encoding
  template : Template
  outer : List (Layer Lambda)

namespace Place

/-- The stage with some tasks left of the template. -/
def stage (place : Place State Lambda) (tasks : List (Task Lambda)) (host : State) :
    Stage State Lambda :=
  ⟨⟨place.template, tasks⟩, place.outer, host⟩

def Runs (place : Place State Lambda) (turn : Turn State Lambda) (acts : List (Act Lambda))
    (result : Except Error Unit) (host : State) : Prop :=
  Walk.Runs place.surroundings place.encoding turn acts result host

/-- A step of a rendering and the walks that begin in one way. If the step ends well,
they go on with the rest of the tasks. If it fails, there is such a walk that fails
with it. -/
inductive Mirrors (place : Place State Lambda)
    (begins : List (Act Lambda) → Except Error Unit → State → Prop)
    (step : Rendering State Unit) (rest : List (Task Lambda)) (progress : Progress State) :
    Prop where
  | goesOn (acts : List (Act Lambda)) (written : List String) (host : State)
      (collects : Collects acts [] written)
      (steps : step progress = .ok () (progress.after acts written host))
      (runs : ∀ later result final,
        place.Runs (.goOn (place.stage rest host)) later result final →
          begins (acts ++ later) result final)
  | fails (acts : List (Act Lambda)) (written : List String) (host : State) (error : Error)
      {inner : List (List String)} (collects : Collects acts inner written)
      (steps : step progress = .error error (progress.after acts written host))
      (runs : begins acts (.error error) host)

/-- The walk over the tasks does what the step does. -/
def Follows (place : Place State Lambda) (tasks : List (Task Lambda))
    (step : Rendering State Unit) : Prop :=
  ∀ (rest : List (Task Lambda)) (progress : Progress State),
    progress.output.encoding = place.encoding →
      place.Mirrors (place.Runs (.goOn (place.stage (tasks ++ rest) progress.host))) step rest
        progress

/-- A walk from a stage at which a task is performed that has been taken from it. -/
def RunsPerforming (place : Place State Lambda) (stage : Stage State Lambda)
    (task : Task Lambda) (acts : List (Act Lambda)) (result : Except Error Unit)
    (host : State) : Prop :=
  ∃ first later turn, acts = first ++ later ∧
    Performs place.surroundings place.encoding stage task first turn ∧
    place.Runs turn later result host

/-- The walk that performs the task does what the step does. -/
def Enacts (place : Place State Lambda) (task : Task Lambda) (step : Rendering State Unit) :
    Prop :=
  ∀ (rest : List (Task Lambda)) (progress : Progress State),
    progress.output.encoding = place.encoding →
      place.Mirrors (place.RunsPerforming (place.stage rest progress.host) task) step rest
        progress

variable {place : Place State Lambda}

theorem Mirrors.mono {begins other : List (Act Lambda) → Except Error Unit → State → Prop}
    {step : Rendering State Unit} {rest : List (Task Lambda)} {progress : Progress State}
    (mirrors : place.Mirrors begins step rest progress)
    (implies : ∀ acts result host, begins acts result host → other acts result host) :
    place.Mirrors other step rest progress := by
  rcases mirrors with
    ⟨acts, written, host, collects, steps, runs⟩ |
    ⟨acts, written, host, error, collects, steps, runs⟩
  · refine .goesOn acts written host collects steps ?_
    intro later result final behind
    exact implies _ _ _ (runs _ _ _ behind)
  · exact .fails acts written host error collects steps (implies _ _ _ runs)

/-- Acts that come first and write nothing. -/
theorem Mirrors.prepend {begins : List (Act Lambda) → Except Error Unit → State → Prop}
    {step whole : Rendering State Unit} {rest : List (Task Lambda)} {progress : Progress State}
    (first : List (Act Lambda)) (host : State) (silent : Collects first [] [])
    (steps : whole progress = step (progress.after first [] host))
    (mirrors : place.Mirrors (fun acts => begins (first ++ acts)) step rest
      (progress.after first [] host)) :
    place.Mirrors begins whole rest progress := by
  rcases mirrors with
    ⟨acts, written, final, collects, inner, runs⟩ |
    ⟨acts, written, final, error, collects, inner, runs⟩
  · refine .goesOn (first ++ acts) written final (silent.append collects) ?_ ?_
    · rw [steps, inner, after_after, List.nil_append]
    · intro later result last behind
      rw [List.append_assoc]
      exact runs _ _ _ behind
  · refine .fails (first ++ acts) written final error (silent.append collects) ?_ runs
    rw [steps, inner, after_after, List.nil_append]

theorem follows_nil : place.Follows [] (pure ()) := by
  intro rest progress encoded
  refine .goesOn [] [] progress.host collects_nil ?_ ?_
  · rw [after_nil]
    rfl
  · intro later result final runs
    exact runs

theorem Follows.andThen {tasks more : List (Task Lambda)} {first second : Rendering State Unit}
    (followsFirst : place.Follows tasks first) (followsSecond : place.Follows more second) :
    place.Follows (tasks ++ more) (first >>= fun _ => second) := by
  intro rest progress encoded
  rw [List.append_assoc]
  rcases followsFirst (more ++ rest) progress encoded with
    ⟨acts, written, host, collects, steps, runs⟩ |
    ⟨acts, written, host, error, collects, steps, runs⟩
  · rcases followsSecond rest (progress.after acts written host) encoded with
      ⟨later, added, final, collectsMore, stepsMore, runsMore⟩ |
      ⟨later, added, final, error, collectsMore, stepsMore, runsMore⟩
    · refine .goesOn (acts ++ later) (written ++ added) final (collects.append collectsMore) ?_ ?_
      · rw [Rendering.bind_of_ok steps, stepsMore, after_after]
      · intro behind result last runsBehind
        rw [List.append_assoc]
        exact runs _ _ _ (runsMore _ _ _ runsBehind)
    · refine .fails (acts ++ later) (written ++ added) final error
        (collects.append collectsMore) ?_ ?_
      · rw [Rendering.bind_of_ok steps, stepsMore, after_after]
      · exact runs _ _ _ runsMore
  · exact .fails acts written host error collects (Rendering.bind_of_error steps) runs

theorem follows_forEach {α : Type} {tasks : α → List (Task Lambda)}
    {step : α → Rendering State Unit} (items : List α)
    (follows : ∀ item, place.Follows (tasks item) (step item)) :
    place.Follows (items.flatMap tasks) (Rendering.forEach step items) := by
  induction items with
  | nil => exact follows_nil
  | cons item rest induction => exact (follows item).andThen induction

/-! ## Effects -/

theorem enacts_of_opens {task : Task Lambda} {tasks : List (Task Lambda)}
    {step : Rendering State Unit}
    (effect : task.effect place.surroundings place.encoding = .opens tasks)
    (follows : place.Follows tasks step) : place.Enacts task step := by
  intro rest progress encoded
  have performs : Performs place.surroundings place.encoding (place.stage rest progress.host)
      task [] (.goOn (place.stage (tasks ++ rest) progress.host)) := .opens effect
  rcases follows rest progress encoded with
    ⟨acts, written, host, collects, steps, runs⟩ |
    ⟨acts, written, host, error, collects, steps, runs⟩
  · refine .goesOn acts written host collects steps ?_
    intro later result final behind
    exact ⟨[], _, _, rfl, performs, runs _ _ _ behind⟩
  · exact .fails acts written host error collects steps ⟨[], _, _, rfl, performs, runs⟩

/-- A step that adds one fragment, or none if there is no text. -/
theorem enacts_of_writes {task : Task Lambda} {encode : Encoding} {text : String}
    {step : Rendering State Unit}
    (effect : task.effect place.surroundings place.encoding = .writes encode text)
    (writes : ∀ progress : Progress State, progress.output.encoding = place.encoding →
      step progress = .ok () (progress.after ([] : List (Act Lambda))
        (if text.isEmpty then [] else [encode text]) progress.host)) :
    place.Enacts task step := by
  intro rest progress encoded
  have performs : Performs place.surroundings place.encoding (place.stage rest progress.host)
      task (written place.template task.node encode text)
      (.goOn (place.stage rest progress.host)) := .writes effect
  refine .goesOn _ _ progress.host
    (collects_written place.template task.node encode text) ?_ ?_
  · rw [writes progress encoded, Progress.after, Progress.after, events_written]
    rfl
  · intro later result final behind
    exact ⟨_, later, _, rfl, performs, behind⟩

theorem enacts_writeRaw {task : Task Lambda} {text : String}
    (effect : task.effect place.surroundings place.encoding = .writes .none text) :
    place.Enacts task (Rendering.writeRaw text) := by
  apply enacts_of_writes effect
  intro progress encoded
  exact Rendering.writeRaw_eq text progress

theorem enacts_write {task : Task Lambda} {text : String}
    (effect : task.effect place.surroundings place.encoding = .writes place.encoding text) :
    place.Enacts task (Rendering.write text) := by
  apply enacts_of_writes effect
  intro progress encoded
  rw [← encoded]
  exact Rendering.write_eq text progress

/-! ## Visits -/

theorem RunsPerforming.quiet {task : Task Lambda} {rest : List (Task Lambda)} {host final : State}
    {acts : List (Act Lambda)} {result : Except Error Unit}
    (runs : place.RunsPerforming (place.stage rest host) task acts result final)
    (silent : task.node.consults = false) :
    place.Runs (.goOn (place.stage (task :: rest) host)) (.visited place.template task :: acts)
      result final := by
  rcases runs with ⟨first, later, turn, rfl, performs, goesOn⟩
  exact .goOn (.quiet silent performs) goesOn

theorem RunsPerforming.granted {task : Task Lambda} {rest : List (Task Lambda)}
    {host after final : State} {acts : List (Act Lambda)} {result : Except Error Unit}
    (runs : place.RunsPerforming (place.stage rest after) task acts result final)
    (consults : task.node.consults = true)
    (answer : place.surroundings.host.proceed host = (true, after)) :
    place.Runs (.goOn (place.stage (task :: rest) host))
      (.visited place.template task :: .asked true :: acts) result final := by
  rcases runs with ⟨first, later, turn, rfl, performs, goesOn⟩
  exact .goOn (.granted consults answer performs) goesOn

theorem Enacts.follows {task : Task Lambda} {step : Rendering State Unit}
    (enacts : place.Enacts task step) (silent : task.node.consults = false) :
    place.Follows [task] step := by
  intro rest progress encoded
  have unseen : progress.after [.visited place.template task] [] progress.host = progress :=
    after_silent rfl progress
  apply Mirrors.prepend [.visited place.template task] progress.host
    (collects_nil.cons fun _ _ => rfl) (congrArg step unseen.symm)
  apply (enacts rest (progress.after _ _ _) encoded).mono
  intro acts result final runs
  exact runs.quiet silent

/-- A node that consults the host is visited no further if the host refuses. -/
theorem Enacts.follows_consult {task : Task Lambda} {step : Rendering State Unit}
    (enacts : place.Enacts task step) (consults : task.node.consults = true) :
    place.Follows [task] (Rendering.consult place.surroundings.host >>= fun _ => step) := by
  intro rest progress encoded
  cases answer : place.surroundings.host.proceed progress.host with
  | mk granted state =>
      have asked := Rendering.consult_eq answer
      cases granted with
      | false =>
          exact .fails [.visited place.template task, .asked false] [] state .interrupted
            ((collects_nil.cons fun _ _ => rfl).cons fun _ _ => rfl)
            (Rendering.bind_of_error asked) (.goOn (.refused consults answer) .stop)
      | true =>
          apply Mirrors.prepend [.visited place.template task, .asked true] state
            ((collects_nil.cons fun _ _ => rfl).cons fun _ _ => rfl) (Rendering.bind_of_ok asked)
          apply (enacts rest (progress.after _ _ _) encoded).mono
          intro acts result final runs
          exact runs.granted consults answer

/-! ## Trees -/

/-- Inclusions in the template do what the function says that renders them. -/
def Includes (place : Place State Lambda)
    (including : String → Scopes Lambda → Rendering State Unit) : Prop :=
  ∀ name body markers scopes,
    place.Enacts ⟨scopes, .leaf .inclusion name body markers⟩ (including name scopes)

section Nodes

variable {including : String → Scopes Lambda → Rendering State Unit} {scopes : Scopes Lambda}

theorem follows_inverted (name body closeBody : String) (markers closeMarkers : Markers)
    {children : List Node}
    (inside : place.Follows (tasksIn scopes children)
      (Node.renderForest place.surroundings including scopes children)) :
    place.Follows [⟨scopes, .group .inverted name body markers children closeBody closeMarkers⟩]
      (Node.render place.surroundings including scopes
        (.group .inverted name body markers children closeBody closeMarkers)) := by
  rw [Node.render]
  refine Enacts.follows_consult (enacts_of_opens rfl ?_) rfl
  cases (scopes.lookup name).isFalsy with
  | true => exact inside
  | false => exact follows_nil

theorem follows_section (name body closeBody : String) (markers closeMarkers : Markers)
    {children : List Node}
    (inside : ∀ inner, place.Follows (tasksIn inner children)
      (Node.renderForest place.surroundings including inner children)) :
    place.Follows [⟨scopes, .group .section name body markers children closeBody closeMarkers⟩]
      (Node.render place.surroundings including scopes
        (.group .section name body markers children closeBody closeMarkers)) := by
  have onceIf : ∀ (truth : Bool) (inner : Scopes Lambda),
      place.Follows (if truth then tasksIn inner children else [])
        (if truth then Node.renderForest place.surroundings including inner children
          else pure ()) := by
    intro truth inner
    cases truth with
    | true => exact inside inner
    | false => exact follows_nil
  rw [Node.render]
  refine Enacts.follows_consult ?_ rfl
  cases value : scopes.lookup name with
  | map entries =>
      refine enacts_of_opens (by simp only [Task.effect, value]; rfl) ?_
      cases entries with
      | nil => exact follows_nil
      | cons entry rest => exact inside _
  | list items =>
      refine enacts_of_opens (by simp only [Task.effect, value]; rfl) ?_
      apply follows_forEach
      intro item
      exact inside (scopes.bindElement item)
  | lambda lambda => exact enacts_writeRaw (by simp only [Task.effect, value])
  | _ =>
      refine enacts_of_opens (by simp only [Task.effect, value]; rfl) ?_
      exact onceIf _ _

mutual
theorem follows_node (includes : place.Includes including) (node : Node)
    (scopes : Scopes Lambda) :
    place.Follows [⟨scopes, node⟩] (node.render place.surroundings including scopes) := by
  cases node with
  | plain text markers =>
      rw [Node.render]
      exact (enacts_writeRaw rfl).follows rfl
  | leaf kind name body markers =>
      cases kind <;> rw [Node.render]
      case name => exact (enacts_write rfl).follows rfl
      case unescaped => exact (enacts_writeRaw rfl).follows rfl
      case triple => exact (enacts_writeRaw rfl).follows rfl
      case comment => exact (enacts_of_opens rfl follows_nil).follows rfl
      case pragma => exact (enacts_of_opens rfl follows_nil).follows rfl
      case redelimit => exact (enacts_of_opens rfl follows_nil).follows rfl
      case inclusion => exact (includes name body markers scopes).follows_consult rfl
  | group kind name body markers children closeBody closeMarkers =>
      cases kind with
      | inverted =>
          apply follows_inverted
          exact follows_forest includes children scopes
      | «section» =>
          apply follows_section
          intro inner
          exact follows_forest includes children inner

theorem follows_forest (includes : place.Includes including) (nodes : List Node)
    (scopes : Scopes Lambda) :
    place.Follows (tasksIn scopes nodes)
      (Node.renderForest place.surroundings including scopes nodes) := by
  cases nodes with
  | nil =>
      rw [Node.renderForest]
      exact follows_nil
  | cons node rest =>
      rw [Node.renderForest]
      exact (follows_node includes node scopes).andThen (follows_forest includes rest scopes)
end

end Nodes

/-! ## Inclusions -/

/-- A template that is rendered inside the place. -/
def inside (place : Place State Lambda) (rest : List (Task Lambda)) (template : Template) :
    Place State Lambda :=
  { place with template, outer := ⟨place.template, rest⟩ :: place.outer }

/-- An included template that is rendered in full and then left. -/
theorem mirrors_apart {rest : List (Task Lambda)} {template : Template} {scopes : Scopes Lambda}
    {step : Rendering State Unit}
    (follows : (place.inside rest template).Follows (tasksIn scopes template.forest) step)
    (progress : Progress State) (encoded : progress.output.encoding = place.encoding) :
    place.Mirrors
      (fun acts result host => ∃ later, acts = .entered template :: later ∧
        place.Runs (.goOn ⟨⟨template, tasksIn scopes template.forest⟩,
          ⟨place.template, rest⟩ :: place.outer, progress.host⟩) later result host)
      (Rendering.apart step) rest progress := by
  rcases follows [] { progress with output := progress.output.fork } encoded with
    ⟨acts, written, host, collects, steps, runs⟩ |
    ⟨acts, written, host, error, collects, steps, runs⟩
  · refine .goesOn (.entered template :: acts ++ [.left]) written host collects.inside ?_ ?_
    · rw [Rendering.apart_of_ok steps, Progress.after, Progress.after, events_inside]
    · intro later result final behind
      refine ⟨acts ++ ([.left] ++ later), by simp, ?_⟩
      rw [List.append_nil] at runs
      exact runs _ _ _ (.goOn .leave behind)
  · refine .fails (.entered template :: acts) [] host error collects.unfinished ?_ ?_
    · rw [Rendering.apart_of_error steps]
      rfl
    · refine ⟨acts, rfl, ?_⟩
      rw [List.append_nil] at runs
      exact runs

/-- What is left of the depth is what the open templates have not used up. -/
theorem includes_renderInclusion (depth : Nat) (place : Place State Lambda)
    (room : place.outer.length + depth = place.surroundings.depthLimit) :
    place.Includes
      (Template.renderInclusion place.surroundings depth place.template.name) := by
  induction depth generalizing place with
  | zero =>
      intro name body markers scopes rest progress encoded
      have deep : place.surroundings.depthLimit ≤ (place.stage rest progress.host).outer.length :=
        Nat.le_of_eq room.symm
      refine .fails [] [] progress.host _ collects_nil ?_
        ⟨[], [], _, rfl, .tooDeep rfl deep, .stop⟩
      rw [after_nil]
      rfl
  | succ depth induction =>
      intro name body markers scopes rest progress encoded
      have shallow : (place.stage rest progress.host).outer.length <
          place.surroundings.depthLimit := by
        change place.outer.length < _
        omega
      generalize resolved :
        Path.ofInclusion scopes.currentFile name place.surroundings.extension = path
      have step := Template.renderInclusion_eq place.surroundings depth place.template.name name
        scopes progress resolved
      have effect : Task.effect place.surroundings place.encoding
          ⟨scopes, .leaf .inclusion name body markers⟩ = .includes path :=
        congrArg Effect.includes resolved
      apply Mirrors.prepend [.loaded path] progress.host (collects_nil.cons fun _ _ => rfl) step
      cases found : place.surroundings.store.readText path with
      | error error =>
          refine .goesOn [.unresolved path place.template.name error] [] progress.host
            (collects_nil.cons fun _ _ => rfl) (Rendering.note_eq rfl _) ?_
          intro later result final behind
          exact ⟨_, later, _, rfl, .unresolved effect shallow found, behind⟩
      | ok text =>
          cases parsed : Template.parse path.text text with
          | error fault =>
              simp only [parsed]
              refine .fails [] [] progress.host (.fault fault) collects_nil ?_
                ⟨[.loaded path], [], _, rfl, .faulty effect shallow found parsed, .stop⟩
              rfl
          | ok template =>
              simp only [parsed]
              cases answer : place.surroundings.host.inspect template progress.host with
              | mk verdict host =>
                  have inspected : Rendering.inspect place.surroundings.host template
                      (progress.after ([.loaded path] : List (Act Lambda)) [] progress.host) = _ :=
                    Rendering.inspect_eq answer
                  cases verdict with
                  | error error =>
                      exact .fails [.inspected template (.error error)] [] host error
                        (collects_nil.cons fun _ _ => rfl) (Rendering.bind_of_error inspected)
                        ⟨_, [], _, rfl, .denied effect shallow found parsed answer, .stop⟩
                  | ok accepted =>
                      have fits : (place.inside rest template).outer.length + depth =
                          place.surroundings.depthLimit := by
                        change place.outer.length + 1 + depth = _
                        omega
                      have follows := follows_forest (induction (place.inside rest template) fits)
                        template.forest (scopes.enterFile path)
                      apply Mirrors.prepend [.inspected template (.ok ())] host
                        (collects_nil.cons fun _ _ => rfl) (Rendering.bind_of_ok inspected)
                      apply Mirrors.mono
                        (mirrors_apart follows ((progress.after _ _ _).after _ _ _) encoded)
                      intro acts result final entering
                      rcases entering with ⟨later, rfl, runs⟩
                      exact ⟨[.loaded path, .inspected template (.ok ()), .entered template], later,
                        _, rfl, .enters effect shallow found parsed answer, runs⟩

end Place

end Walk

open Walk

/-- The walk of a rendering comes to an end, and it tells all that is seen of the
rendering. -/
theorem Template.walked_render (surroundings : Surroundings State Lambda) (template : Template)
    (scopes : Scopes Lambda) (progress : Progress State) :
    ∃ acts result host,
      template.Walked surroundings progress.output.encoding scopes progress.host acts result
        host ∧
      template.render surroundings scopes progress =
        Rendering.ended result (progress.after acts (fragments acts) host) := by
  let place : Place State Lambda := ⟨surroundings, progress.output.encoding, template, []⟩
  cases answer : surroundings.host.inspect template progress.host with
  | mk verdict start =>
      have inspected := Rendering.inspect_eq answer
      cases verdict with
      | error error =>
          refine ⟨_, _, start, .denied answer, ?_⟩
          exact Rendering.bind_of_error inspected
      | ok accepted =>
          have includes := Place.includes_renderInclusion surroundings.depthLimit place
            (Nat.zero_add _)
          have follows := Place.follows_forest includes template.forest scopes
          rcases follows [] (progress.after ([.inspected template (.ok ())] : List (Act Lambda)) []
              start) rfl with
            ⟨acts, written, host, collects, steps, runs⟩ |
            ⟨acts, written, host, error, collects, steps, runs⟩
          · refine ⟨.inspected template (.ok ()) :: acts, .ok (), host, .entered answer ?_, ?_⟩
            · have whole := runs [] (.ok ()) host (.goOn .done .stop)
              rwa [List.append_nil, List.append_nil] at whole
            · apply (Rendering.bind_of_ok inspected).trans
              rw [(collects.cons fun _ _ => rfl).fragments_eq, steps, after_after]
              rfl
          · refine ⟨.inspected template (.ok ()) :: acts, .error error, host, .entered answer ?_,
              ?_⟩
            · rwa [List.append_nil] at runs
            · apply (Rendering.bind_of_ok inspected).trans
              rw [(collects.cons fun _ _ => rfl).fragments_eq, steps, after_after]
              rfl

/-! ## From an empty output -/

namespace Progress

variable {encoding : Encoding} {state : State} {acts : List (Act Lambda)} {written : List String}
  {host : State}

theorem fragments_after : ((⟨.empty encoding, state, #[]⟩ : Progress State).after acts written
    host).output.fragments = written.toArray := by
  simp [after, Output.empty]

theorem loads_after : ((⟨.empty encoding, state, #[]⟩ : Progress State).after acts written
    host).loads = (events acts).filterMap Event.path? := by
  simp [loads, after]

theorem inspections_after : ((⟨.empty encoding, state, #[]⟩ : Progress State).after acts written
    host).inspections = (events acts).filterMap Event.template? := by
  simp [inspections, after]

end Progress

end Mustache
