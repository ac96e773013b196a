import Mustache.Rendering

namespace Mustache

/-! The walk of a rendering, told one visit after the other. A rendering goes down
into the sections of a template and into the templates it includes. The walk keeps
instead what is still to be visited, and its rules say what a single visit does.
Open templates are counted upwards and nothing is counted down: that a walk comes
to an end is for a proof to show. -/

variable {State Lambda : Type}

/-- Sections and inclusions are visited only if the host lets the rendering go on. -/
def Node.consults : Node → Bool
  | .group .. | .leaf .inclusion .. => true
  | _ => false

/-- The template that a path stands for, if there is a text and it has no fault. -/
def Store.template? (store : Store) (path : Path) : Option Template :=
  match store.readText path with
  | .error _ => none
  | .ok text => (Template.parse path.text text).toOption

theorem Store.template?_of_unread {store : Store} {path : Path} {error : LoadError}
    (lost : store.readText path = .error error) : store.template? path = none := by
  rw [Store.template?, lost]

theorem Store.template?_of_read {store : Store} {path : Path} {text : String}
    (found : store.readText path = .ok text) :
    store.template? path = (Template.parse path.text text).toOption := by
  rw [Store.template?, found]

theorem Store.template?_of_parsed {store : Store} {path : Path} {text : String}
    {template : Template} (found : store.readText path = .ok text)
    (parsed : Template.parse path.text text = .ok template) :
    store.template? path = some template := by
  rw [Store.template?_of_read found, parsed]
  rfl

theorem Store.exists_text_of_template? {store : Store} {path : Path} {template : Template}
    (found : store.template? path = some template) :
    ∃ text, store.readText path = .ok text ∧ Template.parse path.text text = .ok template := by
  unfold Store.template? at found
  split at found
  · cases found
  · next text read =>
    refine ⟨text, read, ?_⟩
    cases parsed : Template.parse path.text text with
    | ok template =>
        rw [parsed] at found
        cases found
        rfl
    | error fault =>
        rw [parsed] at found
        cases found

namespace Walk

/-- A node to be visited, and the scopes in which its names are looked up. -/
structure Task (Lambda : Type) where
  scopes : Scopes Lambda
  node : Node

def tasksIn (scopes : Scopes Lambda) (nodes : List Node) : List (Task Lambda) :=
  nodes.map fun node => ⟨scopes, node⟩

/-! ## Acts

The acts of a walk, in the order in which they happen, tell all that can be seen
of a rendering. -/

inductive Act (Lambda : Type) where
  /-- The walk comes to a node of a template. -/
  | visited (template : Template) (task : Task Lambda)
  | asked (granted : Bool)
  | loaded (path : Path)
  | unresolved (path : Path) (includer : String) (error : LoadError)
  | inspected (template : Template) (verdict : Except Error Unit)
  /-- The rendering of an included template begins. -/
  | entered (template : Template)
  /-- A node of a template writes a fragment. -/
  | wrote (template : Template) (node : Node) (fragment : String)
  /-- The rendering of the included template that was entered last has ended well. -/
  | left

/-- What the journal says of an act. -/
def Act.event? : Act Lambda → Option Event
  | .asked granted => some (.asked granted)
  | .loaded path => some (.loaded path)
  | .unresolved path includer error => some (.unresolved path includer error)
  | .inspected template _ => some (.inspected template)
  | _ => none

def events (acts : List (Act Lambda)) : List Event :=
  acts.filterMap Act.event?

/-- The fragments in the open outputs, the innermost first. An included template
has an output of its own, which is added to the one around it when it is left. -/
def collect : List (List String) → Act Lambda → List (List String)
  | outputs, .entered _ => [] :: outputs
  | output :: outer, .wrote _ _ fragment => (output ++ [fragment]) :: outer
  | inner :: output :: outer, .left => (output ++ inner) :: outer
  | outputs, _ => outputs

/-- The fragments that have come to the outermost output. -/
def fragments (acts : List (Act Lambda)) : List String :=
  (acts.foldl collect [[]]).getLastD []

/-- Included templates that are open after an act. -/
def count (opened : Nat) : Act Lambda → Nat
  | .entered _ => opened + 1
  | .left => opened - 1
  | _ => opened

/-- The number of included templates that are open after all of the acts. -/
def opened (acts : List (Act Lambda)) : Nat :=
  acts.foldl count 0

/-! ## Visits -/

/-- What a visit comes to if the host lets it pass. -/
inductive Effect (Lambda : Type) where
  | writes (encode : Encoding) (text : String)
  /-- Other nodes are visited next. -/
  | opens (tasks : List (Task Lambda))
  | includes (path : Path)

/-- A section whose value is a list opens its nodes once for each element. -/
def Task.effect (surroundings : Surroundings State Lambda) (encoding : Encoding)
    (task : Task Lambda) : Effect Lambda :=
  let scopes := task.scopes
  match task.node with
  | .plain text _ => .writes .none text
  | .leaf .name name _ _ => .writes encoding (surroundings.textOf (scopes.lookup name) scopes)
  | .leaf .unescaped name _ _ => .writes .none (surroundings.textOf (scopes.lookup name) scopes)
  | .leaf .triple name _ _ => .writes .none (surroundings.textOf (scopes.lookup name) scopes)
  | .leaf .comment _ _ _ => .opens []
  | .leaf .pragma _ _ _ => .opens []
  | .leaf .redelimit _ _ _ => .opens []
  | .leaf .inclusion name _ _ =>
    .includes (.ofInclusion scopes.currentFile name surroundings.extension)
  | .group .inverted name _ _ children _ _ =>
    .opens (if (scopes.lookup name).isFalsy then tasksIn scopes children else [])
  | .group .section name _ _ children _ _ =>
    match scopes.lookup name with
    | .map entries =>
      .opens (if entries.isEmpty then [] else tasksIn (scopes.bind entries) children)
    | .list items => .opens (items.flatMap fun item => tasksIn (scopes.bindElement item) children)
    | .lambda lambda => .writes .none (surroundings.call lambda task.node.toSource scopes)
    | value => .opens (if value.isTruthy then tasksIn scopes.child children else [])

section Inclusions

variable {surroundings : Surroundings State Lambda} {encoding : Encoding} {task : Task Lambda}
  {path : Path}

theorem Task.inclusion_of_includes (effect : task.effect surroundings encoding = .includes path) :
    ∃ name body markers, task.node = .leaf .inclusion name body markers ∧
      path = .ofInclusion task.scopes.currentFile name surroundings.extension := by
  rcases task with ⟨scopes, node⟩
  cases node with
  | plain text markers => cases effect
  | leaf kind text body markers =>
      cases kind <;> cases effect
      exact ⟨text, body, markers, rfl, rfl⟩
  | group kind name body markers children closeBody closeMarkers =>
      cases kind with
      | inverted => cases effect
      | «section» =>
          simp only [Task.effect] at effect
          split at effect <;> cases effect

theorem Task.consults_of_includes (effect : task.effect surroundings encoding = .includes path) :
    task.node.consults = true := by
  rcases task.inclusion_of_includes effect with ⟨name, body, markers, shape, -⟩
  rw [shape, Node.consults]

end Inclusions

/-- Empty text leaves no fragment. -/
def written (template : Template) (node : Node) (encode : Encoding) (text : String) :
    List (Act Lambda) :=
  if text.isEmpty then [] else [.wrote template node (encode text)]

/-! ## Stages -/

/-- A template that is being rendered, and what is still to be visited of it. -/
structure Layer (Lambda : Type) where
  template : Template
  tasks : List (Task Lambda)

/-- The template that is being rendered and those around it, from the inside out.
The last one is the root. -/
structure Stage (State Lambda : Type) where
  inner : Layer Lambda
  outer : List (Layer Lambda)
  host : State

inductive Turn (State Lambda : Type) where
  | goOn (stage : Stage State Lambda)
  | stop (result : Except Error Unit) (host : State)

/-- What the effect of a task does at a stage from which the task has been taken. -/
inductive Performs (surroundings : Surroundings State Lambda) (encoding : Encoding)
    (stage : Stage State Lambda) (task : Task Lambda) :
    List (Act Lambda) → Turn State Lambda → Prop where
  | writes {encode : Encoding} {text : String}
      (effect : task.effect surroundings encoding = .writes encode text) :
      Performs surroundings encoding stage task
        (written stage.inner.template task.node encode text) (.goOn stage)
  | opens {tasks : List (Task Lambda)}
      (effect : task.effect surroundings encoding = .opens tasks) :
      Performs surroundings encoding stage task []
        (.goOn { stage with inner := ⟨stage.inner.template, tasks ++ stage.inner.tasks⟩ })
  /-- The path is not loaded, whatever there is in the store. -/
  | tooDeep {path : Path} (effect : task.effect surroundings encoding = .includes path)
      (deep : surroundings.depthLimit ≤ stage.outer.length) :
      Performs surroundings encoding stage task []
        (.stop (.error (.tooDeep surroundings.depthLimit path)) stage.host)
  | unresolved {path : Path} {error : LoadError}
      (effect : task.effect surroundings encoding = .includes path)
      (shallow : stage.outer.length < surroundings.depthLimit)
      (lost : surroundings.store.readText path = .error error) :
      Performs surroundings encoding stage task
        [.loaded path, .unresolved path stage.inner.template.name error] (.goOn stage)
  | faulty {path : Path} {text : String} {fault : Fault}
      (effect : task.effect surroundings encoding = .includes path)
      (shallow : stage.outer.length < surroundings.depthLimit)
      (found : surroundings.store.readText path = .ok text)
      (parsed : Template.parse path.text text = .error fault) :
      Performs surroundings encoding stage task [.loaded path]
        (.stop (.error (.fault fault)) stage.host)
  | denied {path : Path} {text : String} {template : Template} {error : Error} {host : State}
      (effect : task.effect surroundings encoding = .includes path)
      (shallow : stage.outer.length < surroundings.depthLimit)
      (found : surroundings.store.readText path = .ok text)
      (parsed : Template.parse path.text text = .ok template)
      (verdict : surroundings.host.inspect template stage.host = (.error error, host)) :
      Performs surroundings encoding stage task
        [.loaded path, .inspected template (.error error)] (.stop (.error error) host)
  | enters {path : Path} {text : String} {template : Template} {host : State}
      (effect : task.effect surroundings encoding = .includes path)
      (shallow : stage.outer.length < surroundings.depthLimit)
      (found : surroundings.store.readText path = .ok text)
      (parsed : Template.parse path.text text = .ok template)
      (verdict : surroundings.host.inspect template stage.host = (.ok (), host)) :
      Performs surroundings encoding stage task
        [.loaded path, .inspected template (.ok ()), .entered template]
        (.goOn ⟨⟨template, tasksIn (task.scopes.enterFile path) template.forest⟩,
          stage.inner :: stage.outer, host⟩)

/-- A step visits one node, or leaves a template of which nothing is to be visited. -/
inductive Steps (surroundings : Surroundings State Lambda) (encoding : Encoding) :
    Stage State Lambda → List (Act Lambda) → Turn State Lambda → Prop where
  | done {template : Template} {host : State} :
      Steps surroundings encoding ⟨⟨template, []⟩, [], host⟩ [] (.stop (.ok ()) host)
  | leave {template : Template} {layer : Layer Lambda} {outer : List (Layer Lambda)}
      {host : State} :
      Steps surroundings encoding ⟨⟨template, []⟩, layer :: outer, host⟩ [.left]
        (.goOn ⟨layer, outer, host⟩)
  | quiet {template : Template} {task : Task Lambda} {rest : List (Task Lambda)}
      {outer : List (Layer Lambda)} {host : State} {acts : List (Act Lambda)}
      {turn : Turn State Lambda} (silent : task.node.consults = false)
      (performs : Performs surroundings encoding ⟨⟨template, rest⟩, outer, host⟩ task acts turn) :
      Steps surroundings encoding ⟨⟨template, task :: rest⟩, outer, host⟩
        (.visited template task :: acts) turn
  | refused {template : Template} {task : Task Lambda} {rest : List (Task Lambda)}
      {outer : List (Layer Lambda)} {host after : State} (consults : task.node.consults = true)
      (answer : surroundings.host.proceed host = (false, after)) :
      Steps surroundings encoding ⟨⟨template, task :: rest⟩, outer, host⟩
        [.visited template task, .asked false] (.stop (.error .interrupted) after)
  | granted {template : Template} {task : Task Lambda} {rest : List (Task Lambda)}
      {outer : List (Layer Lambda)} {host after : State} {acts : List (Act Lambda)}
      {turn : Turn State Lambda} (consults : task.node.consults = true)
      (answer : surroundings.host.proceed host = (true, after))
      (performs : Performs surroundings encoding ⟨⟨template, rest⟩, outer, after⟩ task acts turn) :
      Steps surroundings encoding ⟨⟨template, task :: rest⟩, outer, host⟩
        (.visited template task :: .asked true :: acts) turn

/-- A walk that comes to an end: all its acts, how it ends, and the host at the end. -/
inductive Runs (surroundings : Surroundings State Lambda) (encoding : Encoding) :
    Turn State Lambda → List (Act Lambda) → Except Error Unit → State → Prop where
  | stop {result : Except Error Unit} {host : State} :
      Runs surroundings encoding (.stop result host) [] result host
  | goOn {stage : Stage State Lambda} {acts later : List (Act Lambda)}
      {turn : Turn State Lambda} {result : Except Error Unit} {host : State}
      (steps : Steps surroundings encoding stage acts turn)
      (runs : Runs surroundings encoding turn later result host) :
      Runs surroundings encoding (.goOn stage) (acts ++ later) result host

/-! ## What holds on a walk -/

/-- Every act is as it should be in view of those before it. -/
def Throughout (holds : List (Act Lambda) → Act Lambda → Prop) (past acts : List (Act Lambda)) :
    Prop :=
  ∀ before act behind, acts = before ++ act :: behind → holds (past ++ before) act

section Throughout

variable {holds : List (Act Lambda) → Act Lambda → Prop}

@[simp] theorem throughout_nil (past : List (Act Lambda)) : Throughout holds past [] := by
  intro before act behind shape
  simp at shape

@[simp] theorem throughout_cons (past acts : List (Act Lambda)) (act : Act Lambda) :
    Throughout holds past (act :: acts) ↔
      holds past act ∧ Throughout holds (past ++ [act]) acts := by
  constructor
  · intro all
    constructor
    · simpa using all [] act acts rfl
    · intro before other behind shape
      simpa using all (act :: before) other behind (by rw [shape, List.cons_append])
  · rintro ⟨first, rest⟩ before other behind shape
    cases before with
    | nil =>
        cases shape
        simpa using first
    | cons head before =>
        cases shape
        simpa using rest before other behind rfl

theorem throughout_append (past acts later : List (Act Lambda)) :
    Throughout holds past (acts ++ later) ↔
      Throughout holds past acts ∧ Throughout holds (past ++ acts) later := by
  induction acts generalizing past with
  | nil => simp
  | cons act acts induction => simp [induction, and_assoc]

/-- What each step keeps and what its acts observe is observed by a whole walk. -/
theorem Runs.throughout {surroundings : Surroundings State Lambda} {encoding : Encoding}
    {invariant : List (Act Lambda) → Stage State Lambda → Prop}
    (kept : ∀ past stage acts turn, invariant past stage →
      Steps surroundings encoding stage acts turn →
        Throughout holds past acts ∧ ∀ next, turn = .goOn next → invariant (past ++ acts) next)
    {turn : Turn State Lambda} {acts : List (Act Lambda)} {result : Except Error Unit}
    {host : State} (runs : Runs surroundings encoding turn acts result host)
    {past : List (Act Lambda)} (initial : ∀ stage, turn = .goOn stage → invariant past stage) :
    Throughout holds past acts := by
  induction runs generalizing past with
  | stop => exact throughout_nil past
  | @goOn stage acts later turn result host steps runs induction =>
      rcases kept past stage acts turn (initial stage rfl) steps with ⟨observed, next⟩
      rw [throughout_append]
      exact ⟨observed, induction next⟩

end Throughout

/-! ## Steps of a walk -/

section Steps

variable {surroundings : Surroundings State Lambda} {encoding : Encoding}

theorem Performs.not_visited {stage : Stage State Lambda} {task other : Task Lambda}
    {acts : List (Act Lambda)} {turn : Turn State Lambda} {template : Template}
    (performs : Performs surroundings encoding stage task acts turn) :
    .visited template other ∉ acts := by
  cases performs with
  | writes effect =>
      unfold written
      split <;> simp
  | _ => simp

/-- A step visits at most one node, and it does so first. -/
theorem Steps.not_visited_of_tail {stage : Stage State Lambda} {acts : List (Act Lambda)}
    {turn : Turn State Lambda} (steps : Steps surroundings encoding stage acts turn)
    {template : Template} {task : Task Lambda} : .visited template task ∉ acts.tail := by
  intro member
  cases steps with
  | done | leave => cases member
  | quiet silent performs => exact performs.not_visited member
  | refused consults answer => simp at member
  | granted consults answer performs =>
      rcases List.mem_cons.mp member with impossible | member
      · cases impossible
      · exact performs.not_visited member

/-- A visit stands behind the acts of a step, or it is the first of them. -/
theorem Steps.visited_split {stage : Stage State Lambda} {turn : Turn State Lambda}
    {acts later before behind : List (Act Lambda)}
    (steps : Steps surroundings encoding stage acts turn) {template : Template} {task : Task Lambda}
    (shape : acts ++ later = before ++ .visited template task :: behind) :
    (∃ skipped, before = acts ++ skipped ∧ later = skipped ++ .visited template task :: behind) ∨
      ∃ rest, before = [] ∧ acts = .visited template task :: rest ∧ behind = rest ++ later := by
  rcases List.append_eq_append_iff.mp shape with skipped | ⟨rest, split, more⟩
  · exact .inl skipped
  · cases rest with
    | nil =>
        rw [List.append_nil] at split
        exact .inl ⟨[], by simp [split], more.symm⟩
    | cons act rest =>
        cases more
        -- With acts before it, the visit would not be the first act of its step.
        cases before with
        | nil => exact .inr ⟨rest, rfl, split, rfl⟩
        | cons first before =>
            have inTail : .visited template task ∈ acts.tail := by simp [split]
            exact absurd inTail steps.not_visited_of_tail

section Kept

variable {invariant : List (Act Lambda) → Stage State Lambda → Prop}
  (kept : ∀ past stage acts next, invariant past stage →
    Steps surroundings encoding stage acts (.goOn next) → invariant (past ++ acts) next)
  {turn : Turn State Lambda} {acts : List (Act Lambda)} {result : Except Error Unit} {host : State}

include kept

/-- The walk ends with a step of its own. -/
theorem Runs.last_step (runs : Runs surroundings encoding turn acts result host)
    {past : List (Act Lambda)} {stage : Stage State Lambda} (start : turn = .goOn stage)
    (initial : invariant past stage) :
    ∃ before last stage, acts = before ++ last ∧ invariant (past ++ before) stage ∧
      Steps surroundings encoding stage last (.stop result host) := by
  induction runs generalizing past stage with
  | stop => cases start
  | @goOn stage acts later turn result host steps runs induction =>
      cases start
      cases turn with
      | stop result host =>
          cases runs
          exact ⟨[], acts, stage, by simp, by simpa using initial, steps⟩
      | goOn next =>
          rcases induction rfl (kept past stage acts next initial steps) with
            ⟨before, last, stage, rfl, holds, steps⟩
          exact ⟨acts ++ before, last, stage, by simp, by simpa using holds, steps⟩

/-- Every visit belongs to a step, after which the walk runs on. -/
theorem Runs.step_of_visited (runs : Runs surroundings encoding turn acts result host)
    {past before behind : List (Act Lambda)} {template : Template} {task : Task Lambda}
    (shape : acts = before ++ .visited template task :: behind)
    (initial : ∀ stage, turn = .goOn stage → invariant past stage) :
    ∃ stage rest turn later, invariant (past ++ before) stage ∧
      Steps surroundings encoding stage (.visited template task :: rest) turn ∧
      Runs surroundings encoding turn later result host ∧ behind = rest ++ later := by
  induction runs generalizing past before with
  | stop => simp at shape
  | @goOn stage acts later turn result host steps runs induction =>
      rcases steps.visited_split shape with ⟨skipped, rfl, more⟩ | ⟨rest, rfl, rfl, rfl⟩
      · rw [← List.append_assoc]
        refine induction more ?_
        rintro next rfl
        exact kept past stage acts next (initial stage rfl) steps
      · exact ⟨stage, rest, turn, later, by simpa using initial stage rfl, steps, runs, rfl⟩

end Kept

end Steps

end Walk

open Walk

/-- The whole walk of the rendering of a template, from the question to the host
whether the template may be rendered. -/
inductive Template.Walked (surroundings : Surroundings State Lambda) (encoding : Encoding)
    (template : Template) (scopes : Scopes Lambda) (state : State) :
    List (Act Lambda) → Except Error Unit → State → Prop where
  | denied {error : Error} {host : State}
      (verdict : surroundings.host.inspect template state = (.error error, host)) :
      Walked surroundings encoding template scopes state [.inspected template (.error error)]
        (.error error) host
  | entered {acts : List (Act Lambda)} {result : Except Error Unit} {start host : State}
      (verdict : surroundings.host.inspect template state = (.ok (), start))
      (runs : Runs surroundings encoding
        (.goOn ⟨⟨template, tasksIn scopes template.forest⟩, [], start⟩) acts result host) :
      Walked surroundings encoding template scopes state
        (.inspected template (.ok ()) :: acts) result host

/-- Every visit of a whole walk belongs to a step, after which the walk runs on. -/
theorem Template.Walked.step_of_visited {surroundings : Surroundings State Lambda}
    {encoding : Encoding} {template : Template} {scopes : Scopes Lambda} {state host : State}
    {acts before behind : List (Act Lambda)} {result : Except Error Unit} {source : Template}
    {task : Walk.Task Lambda} {invariant : List (Act Lambda) → Stage State Lambda → Prop}
    (kept : ∀ past stage acts next, invariant past stage →
      Steps surroundings encoding stage acts (.goOn next) → invariant (past ++ acts) next)
    (initial : ∀ (start : State) (stage : Stage State Lambda),
      Turn.goOn ⟨⟨template, tasksIn scopes template.forest⟩, [], start⟩ = .goOn stage →
        invariant [.inspected template (.ok ())] stage)
    (walked : template.Walked surroundings encoding scopes state acts result host)
    (shape : acts = before ++ .visited source task :: behind) :
    ∃ stage rest turn later, invariant before stage ∧
      Steps surroundings encoding stage (.visited source task :: rest) turn ∧
      Runs surroundings encoding turn later result host ∧ behind = rest ++ later := by
  cases walked with
  | denied verdict => cases before <;> simp at shape
  | entered verdict runs =>
      cases before with
      | nil => cases shape
      | cons first before =>
          cases shape
          exact runs.step_of_visited kept rfl (initial _)

end Mustache
