import Mathlib.Data.List.Forall2
import Mustache.Proofs.Path
import Mustache.Proofs.Walk.Origin
import Mustache.Proofs.Written

namespace Mustache

/-! Where included templates are looked for. A tag names a template next to the file
that the tag stands in. The file is not handed on from tag to tag but found in the
scopes, and these are those of sections, elements and inclusions in any order. The
acts of a walk tell the same file in another way: it was loaded last when the
innermost open template was entered. -/

open Walk

variable {State Lambda : Type}

/-! ## Paths and scopes -/

namespace Path

theorem text_ofInclusion_ne_empty (file : Option Path) {name : String} (named : name ≠ "")
    (extension : String) : (ofInclusion file name extension).text ≠ "" := by
  unfold ofInclusion
  apply text_join_ne_empty
  split
  · exact named
  · simp [named]

end Path

namespace Scopes

/-- Files with an empty path do not count. -/
theorem currentFile_eq_find? (scopes : Scopes Lambda) :
    scopes.currentFile =
      (scopes.all.filterMap Scope.file).find? (fun file => !file.text.isEmpty) := by
  unfold currentFile
  induction scopes.all with
  | nil => rfl
  | cons scope rest induction =>
      cases marked : scope.file with
      | none => simp [fileIn, marked, induction]
      | some file => cases empty : file.text.isEmpty <;> simp [fileIn, marked, empty, induction]

theorem currentFile_enter (scopes : Scopes Lambda) {scope : Scope Lambda}
    (unmarked : scope.file = none) : (scopes.enter scope).currentFile = scopes.currentFile := by
  simp [currentFile, all, enter, fileIn, unmarked]

theorem currentFile_enterFile (scopes : Scopes Lambda) {file : Path} (named : file.text ≠ "") :
    (scopes.enterFile file).currentFile = some file := by
  simp [currentFile, all, enterFile, enter, fileIn, named]

/-- A section stands in the file that it is written in, whatever it binds. -/
theorem Inside.currentFile_eq {scopes inner : Scopes Lambda} {name : String}
    (inside : scopes.Inside name inner) : inner.currentFile = scopes.currentFile := by
  cases inside with
  | same => rfl
  | child => exact scopes.currentFile_enter rfl
  | bind found => exact scopes.currentFile_enter rfl
  | @bindElement items item found member => cases item <;> exact scopes.currentFile_enter rfl

end Scopes

namespace Walk

/-! ## Files told by the acts -/

/-- A template that is being rendered, and the file that it was loaded from. -/
structure Opening where
  template : Template
  file : Option Path

/-- The root belongs to the file that the scopes given with it are marked with. -/
def Opening.ofRoot (template : Template) (scopes : Scopes Lambda) : Opening :=
  ⟨template, (scopes.all.filterMap Scope.file).find? (fun file => !file.text.isEmpty)⟩

/-- The path that was loaded last, and the templates that are being rendered, from the
inside out. -/
structure Trail where
  loaded : Option Path
  openings : List Opening

def Trail.follow (trail : Trail) : Act Lambda → Trail
  | .loaded path => { trail with loaded := some path }
  | .entered template => { trail with openings := ⟨template, trail.loaded⟩ :: trail.openings }
  | .left => { trail with openings := trail.openings.tail }
  | _ => trail

/-- The trail behind some acts of a walk that starts with the root. -/
def trail (root : Opening) (acts : List (Act Lambda)) : Trail :=
  acts.foldl Trail.follow ⟨none, [root]⟩

@[simp] theorem trail_append (root : Opening) (past acts : List (Act Lambda)) :
    trail root (past ++ acts) = acts.foldl Trail.follow (trail root past) :=
  List.foldl_append

/-- Acts in which every template that is entered is left again. -/
inductive Whole : List (Act Lambda) → Prop where
  | nil : Whole []
  | act {act : Act Lambda} {rest : List (Act Lambda)} (stays : ∀ template, act ≠ .entered template)
      (remains : act ≠ .left) (whole : Whole rest) : Whole (act :: rest)
  | inclusion {template : Template} {inside rest : List (Act Lambda)} (inner : Whole inside)
      (whole : Whole rest) : Whole (.entered template :: (inside ++ .left :: rest))

/-- Behind an inclusion the trail goes on where it was before. -/
theorem Whole.openings_eq {acts : List (Act Lambda)} (whole : Whole acts) (trail : Trail) :
    (acts.foldl Trail.follow trail).openings = trail.openings := by
  induction whole generalizing trail with
  | nil => rfl
  | @act act rest stays remains whole induction =>
      rw [List.foldl_cons, induction]
      cases act with
      | entered template => exact absurd rfl (stays template)
      | left => exact absurd rfl remains
      | _ => rfl
  | inclusion inner whole inside behind =>
      rw [List.foldl_cons, List.foldl_append, List.foldl_cons, behind]
      exact congrArg List.tail (inside _)

/-- Every open template but the root is what its file stands for. -/
def Traced (store : Store) (root : Opening) (openings : List Opening) : Prop :=
  ∃ included, openings = included ++ [root] ∧ ∀ opening ∈ included,
    ∃ path, opening.file = some path ∧ store.template? path = some opening.template

/-! ## Stages -/

/-- All that is left of a layer stands in the template of the opening, and its scopes
tell the file of the opening. -/
structure Opening.Serves (opening : Opening) (layer : Layer Lambda) : Prop where
  template : layer.template = opening.template
  parsed : ∃ name source, Template.parse name source = .ok opening.template
  tasks : ∀ task ∈ layer.tasks,
    opening.template.Holds task.node ∧ task.scopes.currentFile = opening.file

structure Stage.Located (stage : Stage State Lambda) (store : Store) (root : Opening)
    (past : List (Act Lambda)) : Prop where
  serves : List.Forall₂ Opening.Serves (trail root past).openings (stage.inner :: stage.outer)
  traced : Traced store root (trail root past).openings

/-- A visit is in the template entered last and finds its file, and what is loaded is
what the inclusion names that has just been granted. -/
def Act.Located (surroundings : Surroundings State Lambda) (root : Opening)
    (past : List (Act Lambda)) : Act Lambda → Prop
  | .visited template task =>
    ∃ file outer, (trail root past).openings = ⟨template, file⟩ :: outer ∧
      Traced surroundings.store root (⟨template, file⟩ :: outer) ∧
      template.Holds task.node ∧ task.scopes.currentFile = file
  | .loaded path =>
    ∃ earlier template scopes name body markers,
      past = earlier ++
        [.visited template ⟨scopes, .leaf .inclusion name body markers⟩, .asked true] ∧
      path = .ofInclusion scopes.currentFile name surroundings.extension
  | _ => True

section Steps

variable {surroundings : Surroundings State Lambda} {encoding : Encoding} {root : Opening}
  {past acts : List (Act Lambda)} {stage : Stage State Lambda} {turn : Turn State Lambda}

/-- Acts that neither load nor enter nor leave are no part of the trail. -/
theorem Stage.Located.later (located : stage.Located surroundings.store root past)
    (acts : List (Act Lambda))
    (same : (acts.foldl Trail.follow (trail root past)).openings = (trail root past).openings) :
    stage.Located surroundings.store root (past ++ acts) := by
  rcases located with ⟨serves, traced⟩
  constructor
  · rwa [trail_append, same]
  · rwa [trail_append, same]

theorem Stage.Located.innermost (located : stage.Located surroundings.store root past) :
    ∃ opening openings, (trail root past).openings = opening :: openings ∧
      opening.Serves stage.inner ∧ List.Forall₂ Opening.Serves openings stage.outer := by
  rcases List.forall₂_cons_right_iff.mp located.serves with ⟨opening, openings, first, others, same⟩
  exact ⟨opening, openings, same, first, others⟩

/-- Tasks of the innermost layer may be replaced by others that fit to it. -/
theorem Stage.Located.withTasks {layer : Layer Lambda} {outer : List (Layer Lambda)}
    {host : State}
    (located : (⟨layer, outer, host⟩ : Stage State Lambda).Located surroundings.store root past)
    {tasks : List (Task Lambda)}
    (fit : ∀ opening : Opening, opening.Serves layer → ∀ task ∈ tasks,
      opening.template.Holds task.node ∧ task.scopes.currentFile = opening.file)
    (after : State) :
    (⟨⟨layer.template, tasks⟩, outer, after⟩ : Stage State Lambda).Located surroundings.store root
      past := by
  rcases located.innermost with ⟨opening, openings, opened, first, others⟩
  refine ⟨?_, located.traced⟩
  rw [opened]
  exact .cons ⟨first.template, first.parsed, fit opening first⟩ others

theorem Stage.Located.take {template : Template} {task : Task Lambda} {rest : List (Task Lambda)}
    {outer : List (Layer Lambda)} {host : State}
    (located : (⟨⟨template, task :: rest⟩, outer, host⟩ : Stage State Lambda).Located
      surroundings.store root past) (after : State) :
    (⟨⟨template, rest⟩, outer, after⟩ : Stage State Lambda).Located surroundings.store root past :=
  located.withTasks (fun _ serves other member =>
    serves.tasks other (List.mem_cons_of_mem task member)) after

/-- The nodes of a section stand in the file in which the section stands. -/
theorem Opening.Serves.opens {opening : Opening} {template : Template} {task : Task Lambda}
    {rest tasks : List (Task Lambda)} (serves : opening.Serves ⟨template, task :: rest⟩)
    (effect : task.effect surroundings encoding = .opens tasks) {inner : Task Lambda}
    (member : inner ∈ tasks ++ rest) :
    opening.template.Holds inner.node ∧ inner.scopes.currentFile = opening.file := by
  rcases List.mem_append.mp member with opened | left
  · rcases serves.tasks task List.mem_cons_self with ⟨holds, same⟩
    rcases Task.section_of_opens effect opened with
      ⟨kind, name, body, markers, children, closeBody, closeMarkers, shape, listed, inside⟩
    rw [shape] at holds
    exact ⟨holds.child listed, inside.currentFile_eq.trans same⟩
  · exact serves.tasks inner (List.mem_cons_of_mem task left)

/-- An inclusion names a file, as its name is not empty. -/
theorem Opening.Serves.includes {opening : Opening} {layer : Layer Lambda}
    (serves : opening.Serves layer) {task : Task Lambda} (member : task ∈ layer.tasks)
    {path : Path} (effect : task.effect surroundings encoding = .includes path) :
    path.text ≠ "" := by
  rcases Task.inclusion_of_includes effect with ⟨name, body, markers, shape, rfl⟩
  rcases serves.parsed with ⟨file, source, parsed⟩
  rcases (serves.tasks task member).1 with ⟨item, listed, same⟩
  have written := Template.written_of_parse parsed listed
  rw [same, shape] at written
  exact Path.text_ofInclusion_ne_empty _ (written.trimmed rfl).1 _

/-- A template that has been loaded is the innermost opening from then on. -/
theorem Stage.Located.enter
    (located : stage.Located surroundings.store root past) {path : Path} {text : String}
    {included : Template} (found : surroundings.store.readText path = .ok text)
    (parsed : Template.parse path.text text = .ok included) (named : path.text ≠ "")
    (scopes : Scopes Lambda) (host : State) :
    (⟨⟨included, tasksIn (scopes.enterFile path) included.forest⟩, stage.inner :: stage.outer,
        host⟩ : Stage State Lambda).Located surroundings.store root
      (past ++ [.loaded path, .inspected included (.ok ()), .entered included]) := by
  have openings : (trail root
      (past ++ [.loaded path, .inspected included (.ok ()), .entered included])).openings =
        ⟨included, some path⟩ :: (trail root past).openings := by
    rw [trail_append]
    rfl
  constructor
  · rw [openings]
    refine .cons ⟨rfl, ⟨path.text, text, parsed⟩, fun task member => ?_⟩ located.serves
    rcases mem_tasksIn member with ⟨listed, same⟩
    refine ⟨Template.holds_of_mem listed, ?_⟩
    rw [same]
    exact scopes.currentFile_enterFile named
  · rcases located.traced with ⟨around, shape, each⟩
    have loads := Store.template?_of_parsed found parsed
    rw [openings, shape]
    exact ⟨⟨included, some path⟩ :: around, rfl,
      List.forall_mem_cons.mpr ⟨⟨path, rfl, loads⟩, each⟩⟩

/-- The trail goes back to the template around the one that is left. -/
theorem Stage.Located.leave {left layer : Layer Lambda} {outer : List (Layer Lambda)}
    {host : State}
    (located : (⟨left, layer :: outer, host⟩ : Stage State Lambda).Located surroundings.store root
      past) :
    (⟨layer, outer, host⟩ : Stage State Lambda).Located surroundings.store root
      (past ++ [.left]) := by
  have openings : (trail root (past ++ [.left])).openings = (trail root past).openings.tail := by
    rw [trail_append]
    rfl
  rcases located with ⟨serves, included, shape, each⟩
  rw [shape] at serves openings
  cases included with
  | nil =>
      cases serves with
      | cons first others => cases others
  | cons inner included =>
      rw [List.cons_append] at serves
      cases serves with
      | cons first others =>
          constructor
          · rw [openings]
            exact others
          · rw [openings]
            exact ⟨included, rfl, (List.forall_mem_cons.mp each).2⟩

/-- What the innermost opening says of a task that is visited. -/
theorem Stage.Located.visited {template : Template} {task : Task Lambda}
    {rest : List (Task Lambda)} {outer : List (Layer Lambda)} {host : State}
    (located : (⟨⟨template, task :: rest⟩, outer, host⟩ : Stage State Lambda).Located
      surroundings.store root past) :
    Act.Located surroundings root past (.visited template task) := by
  rcases located.innermost with ⟨⟨holder, file⟩, openings, opened, ⟨rfl, -, tasks⟩, -⟩
  rcases tasks task List.mem_cons_self with ⟨holds, same⟩
  exact ⟨file, openings, opened, opened ▸ located.traced, holds, same⟩

theorem Performs.located {template : Template} {task : Task Lambda} {rest : List (Task Lambda)}
    {outer : List (Layer Lambda)} {host after : State}
    (located : (⟨⟨template, task :: rest⟩, outer, host⟩ : Stage State Lambda).Located
      surroundings.store root past)
    (granted : task.node.consults = true →
      ∃ earlier, past = earlier ++ [.visited template task, .asked true])
    (performs : Performs surroundings encoding ⟨⟨template, rest⟩, outer, after⟩ task acts turn) :
    Throughout (Act.Located surroundings root) past acts ∧
      ∀ next, turn = .goOn next → next.Located surroundings.store root (past ++ acts) := by
  have loads : ∀ path, task.effect surroundings encoding = .includes path →
      Act.Located surroundings root past (.loaded path) := by
    intro path effect
    rcases granted (Task.consults_of_includes effect) with ⟨earlier, shape⟩
    rcases task with ⟨scopes, node⟩
    rcases Task.inclusion_of_includes effect with ⟨name, body, markers, rfl, same⟩
    exact ⟨earlier, template, scopes, name, body, markers, shape, same⟩
  cases performs with
  | writes effect =>
      unfold written
      split
      · refine ⟨throughout_nil past, ?_⟩
        rintro _ ⟨⟩
        exact (located.take after).later _ rfl
      · refine ⟨by simp [Act.Located], ?_⟩
        rintro _ ⟨⟩
        exact (located.take after).later _ rfl
  | @opens tasks effect =>
      refine ⟨throughout_nil past, ?_⟩
      rintro _ ⟨⟩
      rw [List.append_nil]
      exact located.withTasks (fun _ serves inner member => serves.opens effect member) after
  | tooDeep effect deep => exact ⟨throughout_nil past, nofun⟩
  | @unresolved path error effect shallow lost =>
      rw [throughout_cons]
      refine ⟨⟨loads path effect, by simp [Act.Located]⟩, ?_⟩
      rintro _ ⟨⟩
      exact (located.take after).later _ rfl
  | @faulty path text fault effect shallow found parsed =>
      exact ⟨by simp [loads path effect], nofun⟩
  | @denied path text included error final effect shallow found parsed verdict =>
      rw [throughout_cons]
      exact ⟨⟨loads path effect, by simp [Act.Located]⟩, nofun⟩
  | @enters path text included final effect shallow found parsed verdict =>
      rw [throughout_cons]
      refine ⟨⟨loads path effect, by simp [Act.Located]⟩, ?_⟩
      rintro _ ⟨⟩
      rcases located.innermost with ⟨opening, openings, -, first, -⟩
      exact (located.take after).enter found parsed (first.includes List.mem_cons_self effect)
        task.scopes final

theorem Steps.located (located : stage.Located surroundings.store root past)
    (steps : Steps surroundings encoding stage acts turn) :
    Throughout (Act.Located surroundings root) past acts ∧
      ∀ next, turn = .goOn next → next.Located surroundings.store root (past ++ acts) := by
  cases steps with
  | done => exact ⟨throughout_nil past, nofun⟩
  | leave =>
      refine ⟨by simp [Act.Located], ?_⟩
      rintro _ ⟨⟩
      exact located.leave
  | @quiet template task rest outer host acts turn silent performs =>
      rcases performs.located (located.later [.visited template task] rfl)
        (fun consults => by cases silent.symm.trans consults) with ⟨throughout, next⟩
      rw [List.append_assoc] at next
      rw [throughout_cons]
      exact ⟨⟨located.visited, throughout⟩, next⟩
  | refused consults answer =>
      rw [throughout_cons]
      exact ⟨⟨located.visited, by simp [Act.Located]⟩, nofun⟩
  | @granted template task rest outer host after acts turn consults answer performs =>
      rcases performs.located
        (located.later [.visited template task, .asked true] rfl)
        (fun _ => ⟨past, rfl⟩) with ⟨throughout, next⟩
      rw [List.append_assoc] at next
      rw [throughout_cons, throughout_cons, List.append_assoc]
      exact ⟨⟨located.visited, trivial, throughout⟩, next⟩

theorem Steps.located_next (past : List (Act Lambda)) (stage : Stage State Lambda)
    (acts : List (Act Lambda)) (next : Stage State Lambda)
    (located : stage.Located surroundings.store root past)
    (steps : Steps surroundings encoding stage acts (.goOn next)) :
    next.Located surroundings.store root (past ++ acts) :=
  (steps.located located).2 next rfl

/-- An inclusion that the host grants loads its path, unless it is too deep. -/
theorem Steps.loads {template : Template} {scopes : Scopes Lambda} {name body : String}
    {markers : Markers} {rest later behind : List (Act Lambda)} {result : Except Error Unit}
    {host : State}
    (steps : Steps surroundings encoding stage
      (.visited template ⟨scopes, .leaf .inclusion name body markers⟩ :: rest) turn)
    (runs : Runs surroundings encoding turn later result host)
    (shape : rest ++ later = .asked true :: behind) :
    (∃ more, behind =
        .loaded (.ofInclusion scopes.currentFile name surroundings.extension) :: more) ∨
      behind = [] ∧ result = .error (.tooDeep surroundings.depthLimit
        (.ofInclusion scopes.currentFile name surroundings.extension)) := by
  cases steps with
  | quiet silent performs => cases silent
  | refused consults answer => cases shape
  | @granted template task rest outer host after acts turn consults answer performs =>
      cases shape
      cases performs with
      | writes effect | opens effect => cases effect
      | tooDeep effect deep =>
          cases effect
          cases runs
          exact .inr ⟨rfl, rfl⟩
      | unresolved effect shallow lost | faulty effect shallow found parsed
      | denied effect shallow found parsed verdict | enters effect shallow found parsed verdict =>
          cases effect
          exact .inl ⟨_, rfl⟩

end Steps

theorem located_root {name source : String} {template : Template}
    (parsed : Template.parse name source = .ok template) (scopes : Scopes Lambda) (store : Store)
    (host : State) :
    ∀ stage, Turn.goOn ⟨⟨template, tasksIn scopes template.forest⟩, [], host⟩ = .goOn stage →
      stage.Located store (.ofRoot template scopes) [.inspected template (.ok ())] := by
  rintro _ ⟨⟩
  refine ⟨.cons ⟨rfl, ⟨name, source, parsed⟩, fun task member => ?_⟩ .nil, [], rfl, nofun⟩
  rcases mem_tasksIn member with ⟨listed, same⟩
  refine ⟨Template.holds_of_mem listed, ?_⟩
  rw [same]
  exact scopes.currentFile_eq_find?

/-! ## Whole walks -/

/-- Every tag of a walk stands in the file that the acts tell, and templates are looked
for next to it. -/
structure Located (surroundings : Surroundings State Lambda) (root : Opening)
    (acts : List (Act Lambda)) (result : Except Error Unit) : Prop where
  of_visited : ∀ before template task behind, acts = before ++ .visited template task :: behind →
    ∃ file outer, (trail root before).openings = ⟨template, file⟩ :: outer ∧
      Traced surroundings.store root (⟨template, file⟩ :: outer) ∧
      template.Holds task.node ∧ task.scopes.currentFile = file
  /-- Whatever is loaded is named by a tag that stands in the opening entered last. -/
  of_loaded : ∀ before path behind, acts = before ++ .loaded path :: behind →
    ∃ earlier template file outer scopes name body markers,
      before = earlier ++
        [.visited template ⟨scopes, .leaf .inclusion name body markers⟩, .asked true] ∧
      (trail root earlier).openings = ⟨template, file⟩ :: outer ∧
      path = ((file.bind Path.parent?).getD ⟨""⟩).join
        (if surroundings.extension = "" then name else name ++ "." ++ surroundings.extension)
  /-- Every inclusion that the host grants loads its path, or is one too many. -/
  of_granted : ∀ before template scopes name body markers behind,
    acts = before ++
      .visited template ⟨scopes, .leaf .inclusion name body markers⟩ :: .asked true :: behind →
    let path : Path := .ofInclusion scopes.currentFile name surroundings.extension
    (∃ later, behind = .loaded path :: later) ∨
      behind = [] ∧ result = .error (.tooDeep surroundings.depthLimit path)
  /-- Behind what has been included, the tags stand in the same file as before. -/
  again : ∀ before template task between later task' behind,
    acts = before ++ .visited template task :: (between ++ .visited later task' :: behind) →
    Whole between → later = template ∧ task'.scopes.currentFile = task.scopes.currentFile

end Walk

open Walk

section Walked

variable {surroundings : Surroundings State Lambda} {encoding : Encoding} {template : Template}
  {scopes : Scopes Lambda} {state host : State} {acts : List (Act Lambda)}
  {result : Except Error Unit} {name source : String}

theorem Template.Walked.throughout_located (parsed : parse name source = .ok template)
    (walked : template.Walked surroundings encoding scopes state acts result host) :
    Throughout (Act.Located surroundings (.ofRoot template scopes)) [] acts := by
  cases walked with
  | denied verdict => simp [Act.Located]
  | @entered acts result start host verdict runs =>
      rw [throughout_cons]
      exact ⟨trivial, runs.throughout (fun _ _ _ _ located steps => steps.located located)
        (located_root parsed scopes surroundings.store start)⟩

theorem Template.Walked.loads (parsed : parse name source = .ok template)
    (walked : template.Walked surroundings encoding scopes state acts result host)
    {before behind : List (Act Lambda)} {holder : Template} {inner : Scopes Lambda}
    {named body : String} {markers : Markers}
    (shape : acts = before ++
      .visited holder ⟨inner, .leaf .inclusion named body markers⟩ :: .asked true :: behind) :
    (∃ later, behind =
        .loaded (.ofInclusion inner.currentFile named surroundings.extension) :: later) ∨
      behind = [] ∧ result = .error (.tooDeep surroundings.depthLimit
        (.ofInclusion inner.currentFile named surroundings.extension)) := by
  rcases walked.step_of_visited Steps.located_next
      (located_root parsed scopes surroundings.store) shape with
    ⟨stage, rest, turn, later, -, steps, runs, split⟩
  exact steps.loads runs split.symm

theorem Template.Walked.located (parsed : parse name source = .ok template)
    (walked : template.Walked surroundings encoding scopes state acts result host) :
    Located surroundings (.ofRoot template scopes) acts result := by
  have throughout := walked.throughout_located parsed
  have visited : ∀ before holder task behind, acts = before ++ .visited holder task :: behind →
      Act.Located surroundings (.ofRoot template scopes) before (.visited holder task) :=
    fun before holder task behind shape => throughout before (.visited holder task) behind shape
  refine ⟨visited, ?_, ?_, ?_⟩
  · intro before path behind shape
    rcases throughout before (.loaded path) behind shape with
      ⟨earlier, holder, inner, named, body, markers, same, rfl⟩
    rw [List.nil_append] at same
    rcases visited earlier holder ⟨inner, .leaf .inclusion named body markers⟩
        (.asked true :: .loaded (.ofInclusion inner.currentFile named surroundings.extension) ::
          behind) (by simp [shape, same]) with
      ⟨file, outer, opened, -, -, rfl⟩
    refine ⟨earlier, holder, _, outer, inner, named, body, markers, same, opened, ?_⟩
    simp [Path.ofInclusion]
  · intro before holder inner named body markers behind shape
    exact walked.loads parsed shape
  · intro before holder task between later task' behind shape whole
    rcases visited before holder task _ shape with ⟨file, outer, opened, -, -, found⟩
    rcases visited (before ++ .visited holder task :: between) later task' behind
        (by simp [shape]) with ⟨file', outer', opened', -, -, found'⟩
    have same : (trail (.ofRoot template scopes)
        (before ++ .visited holder task :: between)).openings =
          (trail (.ofRoot template scopes) before).openings := by
      rw [trail_append, List.foldl_cons]
      exact whole.openings_eq _
    rw [opened, opened'] at same
    cases same
    exact ⟨rfl, found'.trans found.symm⟩

end Walked

/-- In every rendering, included templates are looked for next to the file of the template
that includes them. -/
theorem Template.render_located (surroundings : Surroundings State Lambda) {name source : String}
    {template : Template} (parsed : parse name source = .ok template) (scopes : Scopes Lambda)
    (progress : Progress State) :
    ∃ acts result host,
      template.render surroundings scopes progress =
          Rendering.ended result (progress.after acts (fragments acts) host) ∧
        template.Walked surroundings progress.output.encoding scopes progress.host acts result
          host ∧
        Located surroundings (.ofRoot template scopes) acts result := by
  rcases template.walked_render surroundings scopes progress with
    ⟨acts, result, host, walked, renders⟩
  exact ⟨acts, result, host, renders, walked, walked.located parsed⟩

/-- Two directories with a template of the same name in each of them. -/
def Surroundings.folders : Surroundings Unit Unit where
  host := .permissive
  store := .ofFiles
    [(⟨"d/e/b.x"⟩, "\x7b\x7b#s\x7d\x7d\x7b\x7b>c\x7d\x7d\x7b\x7b/s\x7d\x7d".toUTF8),
      (⟨"d/e/c.x"⟩, "".toUTF8), (⟨"d/c.x"⟩, "".toUTF8)]
  call _ text _ := text
  extension := "x"
  depthLimit := 2

/-- The page goes on with its own directory behind a template of another one. -/
theorem Template.render_located_folders :
    let scopes : Scopes Unit := .atFile (.root [("s", .bool true)]) ⟨"d/page.x"⟩
    ∃ page acts result host,
      parse "d/page.x" "\x7b\x7b>e/b\x7d\x7d\x7b\x7b>c\x7d\x7d" = .ok page ∧
      page.Walked .folders .html scopes () acts result host ∧
      Located .folders (.ofRoot page scopes) acts result ∧
      (events acts).filterMap Event.path? = [⟨"d/e/b.x"⟩, ⟨"d/e/c.x"⟩, ⟨"d/c.x"⟩] := by
  intro scopes
  have loads : (parse "d/page.x" "\x7b\x7b>e/b\x7d\x7d\x7b\x7b>c\x7d\x7d").toOption.map
      (fun page => ((page.render .folders scopes).reached ⟨.empty .html, (), #[]⟩).loads) =
        some [⟨"d/e/b.x"⟩, ⟨"d/e/c.x"⟩, ⟨"d/c.x"⟩] := by
    decide +kernel
  cases parsed : parse "d/page.x" "\x7b\x7b>e/b\x7d\x7d\x7b\x7b>c\x7d\x7d" with
  | error fault =>
      rw [parsed] at loads
      cases loads
  | ok page =>
      rw [parsed] at loads
      rcases render_located .folders parsed scopes ⟨.empty .html, (), #[]⟩ with
        ⟨acts, result, host, renders, walked, located⟩
      refine ⟨page, acts, result, host, rfl, walked, located, ?_⟩
      have found : ((page.render .folders scopes).reached ⟨.empty .html, (), #[]⟩).loads = _ :=
        Option.some.inj loads
      rwa [Rendering.reached_of_ended renders, Progress.loads_after] at found

end Mustache
