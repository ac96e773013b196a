import Mustache.Proofs.Walk.Rendering

namespace Mustache

/-! Templates may include themselves and each other in any way, and still every
rendering comes to an end: as many templates as the limit says are open one inside
the other, and one more ends the rendering. -/

variable {State Lambda : Type}

namespace Walk

section Depth

variable {surroundings : Surroundings State Lambda} {encoding : Encoding}
  {past acts : List (Act Lambda)} {stage : Stage State Lambda} {turn : Turn State Lambda}

/-! ## Open templates -/

/-- The acts tell how many templates are open at a stage, and these are not too many. -/
def Stage.Measured (stage : Stage State Lambda) (limit : Nat) (past : List (Act Lambda)) : Prop :=
  opened past = stage.outer.length ∧ stage.outer.length ≤ limit

/-- After an act, no more templates are open than may be. -/
def Act.WithinLimit (limit : Nat) (past : List (Act Lambda)) (act : Act Lambda) : Prop :=
  opened (past ++ [act]) ≤ limit

@[simp] theorem opened_append (past acts : List (Act Lambda)) :
    opened (past ++ acts) = acts.foldl count (opened past) :=
  List.foldl_append

theorem Performs.measured {task : Task Lambda}
    (measured : stage.Measured surroundings.depthLimit past)
    (performs : Performs surroundings encoding stage task acts turn) :
    Throughout (Act.WithinLimit surroundings.depthLimit) past acts ∧
      ∀ next, turn = .goOn next → next.Measured surroundings.depthLimit (past ++ acts) := by
  rcases measured with ⟨counted, within⟩
  cases performs with
  | writes effect =>
      unfold written
      split
      · exact ⟨throughout_nil past, by simp [Stage.Measured, counted, within]⟩
      · simp [Act.WithinLimit, Stage.Measured, count, counted, within]
  | opens effect => exact ⟨throughout_nil past, by simp [Stage.Measured, counted, within]⟩
  | tooDeep effect deep => exact ⟨throughout_nil past, nofun⟩
  | unresolved effect shallow lost =>
      simp [Act.WithinLimit, Stage.Measured, count, counted, within]
  | faulty effect shallow found parsed => simp [Act.WithinLimit, count, counted, within]
  | denied effect shallow found parsed verdict =>
      simp [Act.WithinLimit, Stage.Measured, count, counted, within]
  | enters effect shallow found parsed verdict =>
      -- Only this rule opens a template, and it has made sure that there is room.
      have deeper : stage.outer.length + 1 ≤ surroundings.depthLimit := shallow
      simp [Act.WithinLimit, Stage.Measured, count, counted, within, deeper]

theorem Steps.measured (measured : stage.Measured surroundings.depthLimit past)
    (steps : Steps surroundings encoding stage acts turn) :
    Throughout (Act.WithinLimit surroundings.depthLimit) past acts ∧
      ∀ next, turn = .goOn next → next.Measured surroundings.depthLimit (past ++ acts) := by
  rcases measured with ⟨counted, within⟩
  cases steps with
  | done => exact ⟨throughout_nil past, nofun⟩
  | leave =>
      have outside := Nat.le_of_succ_le within
      simp [Act.WithinLimit, Stage.Measured, count, counted, outside]
  | @quiet template task rest outer host acts turn silent performs =>
      have visited : (⟨⟨template, rest⟩, outer, host⟩ : Stage State Lambda).Measured
          surroundings.depthLimit (past ++ [.visited template task]) := by
        simp [Stage.Measured, count, counted, within]
      rcases performs.measured visited with ⟨throughout, next⟩
      rw [List.append_assoc] at next
      exact ⟨by simp [Act.WithinLimit, count, counted, within, throughout], next⟩
  | refused consults answer => simp [Act.WithinLimit, count, counted, within]
  | @granted template task rest outer host after acts turn consults answer performs =>
      have asked : (⟨⟨template, rest⟩, outer, after⟩ : Stage State Lambda).Measured
          surroundings.depthLimit (past ++ [.visited template task, .asked true]) := by
        simp [Stage.Measured, count, counted, within]
      rcases performs.measured asked with ⟨throughout, next⟩
      rw [List.append_assoc] at next
      exact ⟨by simp [Act.WithinLimit, count, counted, within, throughout], next⟩

theorem Steps.measured_next (past : List (Act Lambda)) (stage : Stage State Lambda)
    (acts : List (Act Lambda)) (next : Stage State Lambda)
    (measured : stage.Measured surroundings.depthLimit past)
    (steps : Steps surroundings encoding stage acts (.goOn next)) :
    next.Measured surroundings.depthLimit (past ++ acts) :=
  (steps.measured measured).2 next rfl

/-- At the root no other template is open. -/
theorem measured_root (limit : Nat) (template : Template) (scopes : Scopes Lambda) (host : State) :
    ∀ stage, Turn.goOn ⟨⟨template, tasksIn scopes template.forest⟩, [], host⟩ = .goOn stage →
      stage.Measured limit [.inspected template (.ok ())] := by
  rintro _ ⟨⟩
  exact ⟨rfl, Nat.zero_le _⟩

/-! ## The limit -/

/-- The host grants an inclusion while as many templates are open as may be; `behind`
are the acts behind it. -/
def ReachesLimit (surroundings : Surroundings State Lambda) (acts : List (Act Lambda))
    (path : Path) (behind : List (Act Lambda)) : Prop :=
  ∃ before template scopes name body markers,
    acts = before ++
      .visited template ⟨scopes, .leaf .inclusion name body markers⟩ :: .asked true :: behind ∧
    opened before = surroundings.depthLimit ∧
    path = .ofInclusion scopes.currentFile name surroundings.extension

/-- One inclusion more than there may be ends the walk, and nothing is loaded. -/
theorem Steps.stops_of_limit {template : Template} {scopes : Scopes Lambda} {name body : String}
    {markers : Markers} (full : stage.outer.length = surroundings.depthLimit)
    (steps : Steps surroundings encoding stage
      (.visited template ⟨scopes, .leaf .inclusion name body markers⟩ :: acts) turn) :
    acts = [.asked false] ∨ acts = [.asked true] ∧ ∃ host,
      turn = .stop (.error (.tooDeep surroundings.depthLimit
        (.ofInclusion scopes.currentFile name surroundings.extension))) host := by
  cases steps with
  | quiet silent performs => cases silent
  | refused consults answer => exact .inl rfl
  | granted consults answer performs =>
      refine .inr ?_
      cases performs with
      | writes effect => cases effect
      | opens effect => cases effect
      | tooDeep effect deep =>
          cases effect
          exact ⟨rfl, _, rfl⟩
      | unresolved effect shallow lost | faulty effect shallow found parsed
      | denied effect shallow found parsed verdict | enters effect shallow found parsed verdict =>
          exact absurd full (Nat.ne_of_lt shallow)

/-- A walk that ends for its depth has reached the limit, unless the host says the
same of a template. -/
theorem Steps.limit_of_stop {bound : Nat} {path : Path} {host : State}
    (own : ∀ template state bound path,
      (surroundings.host.inspect template state).1 ≠ .error (.tooDeep bound path))
    (steps : Steps surroundings encoding stage acts (.stop (.error (.tooDeep bound path)) host)) :
    bound = surroundings.depthLimit ∧ surroundings.depthLimit ≤ stage.outer.length ∧
      ∃ template scopes name body markers,
        acts = [.visited template ⟨scopes, .leaf .inclusion name body markers⟩, .asked true] ∧
        path = .ofInclusion scopes.currentFile name surroundings.extension := by
  cases steps with
  | quiet silent performs =>
      cases performs with
      | tooDeep effect deep | denied effect shallow found parsed verdict =>
          exact absurd (silent.symm.trans (Task.consults_of_includes effect)) (by decide)
  | @granted template task rest outer host after acts turn consults answer performs =>
      cases performs with
      | tooDeep effect deep =>
          rcases task with ⟨scopes, node⟩
          rcases Task.inclusion_of_includes effect with ⟨name, body, markers, rfl, same⟩
          exact ⟨rfl, deep, template, scopes, name, body, markers, rfl, same⟩
      | denied effect shallow found parsed verdict =>
          exact absurd (congrArg Prod.fst verdict) (own _ _ bound path)

end Depth

end Walk

open Walk

namespace Template.Walked

variable {surroundings : Surroundings State Lambda} {encoding : Encoding} {template : Template}
  {scopes : Scopes Lambda} {state host : State} {acts : List (Act Lambda)}
  {result : Except Error Unit}

theorem withinLimit (walked : template.Walked surroundings encoding scopes state acts result host) :
    Throughout (Act.WithinLimit surroundings.depthLimit) [] acts := by
  cases walked with
  | denied verdict => simp [Act.WithinLimit, opened, count]
  | entered verdict runs =>
      rw [throughout_cons]
      exact ⟨Nat.zero_le _, runs.throughout
        (fun _ _ _ _ measured steps => steps.measured measured) (measured_root _ _ _ _)⟩

theorem stops_of_limit
    (walked : template.Walked surroundings encoding scopes state acts result host) {path : Path}
    {behind : List (Act Lambda)} (reaches : ReachesLimit surroundings acts path behind) :
    behind = [] ∧ result = .error (.tooDeep surroundings.depthLimit path) := by
  rcases reaches with ⟨before, source, places, name, body, markers, shape, full, rfl⟩
  rcases walked.step_of_visited Steps.measured_next (measured_root _ _ _) shape with
    ⟨stage, rest, turn, later, ⟨counted, within⟩, steps, runs, split⟩
  rcases steps.stops_of_limit (counted.symm.trans full) with rfl | ⟨rfl, last, rfl⟩
  · cases split
  · cases runs
    cases split
    exact ⟨rfl, rfl⟩

theorem limit_of_stop {bound : Nat} {path : Path}
    (own : ∀ template state bound path,
      (surroundings.host.inspect template state).1 ≠ .error (.tooDeep bound path))
    (walked : template.Walked surroundings encoding scopes state acts
      (.error (.tooDeep bound path)) host) :
    bound = surroundings.depthLimit ∧ ReachesLimit surroundings acts path [] := by
  cases walked with
  | denied verdict => exact absurd (congrArg Prod.fst verdict) (own _ _ bound path)
  | entered verdict runs =>
      rcases runs.last_step Steps.measured_next rfl (measured_root _ _ _ _ _ rfl) with
        ⟨before, last, stage, rfl, ⟨counted, within⟩, steps⟩
      rcases steps.limit_of_stop own with
        ⟨rfl, deep, source, places, name, body, markers, rfl, same⟩
      exact ⟨rfl, .inspected template (.ok ()) :: before, source, places, name, body, markers, rfl,
        counted.trans (Nat.le_antisymm within deep), same⟩

end Template.Walked

/-- Every rendering comes to an end with no more templates open than may be. It fails
for its depth just when it reaches the limit, and then nothing more is loaded. -/
theorem Template.render_bounded (surroundings : Surroundings State Lambda)
    (own : ∀ template state bound path,
      (surroundings.host.inspect template state).1 ≠ .error (.tooDeep bound path))
    (template : Template) (scopes : Scopes Lambda) (progress : Progress State) :
    ∃ acts result host,
      template.render surroundings scopes progress =
          Rendering.ended result (progress.after acts (fragments acts) host) ∧
        template.Walked surroundings progress.output.encoding scopes progress.host acts result
          host ∧
        (∀ before behind, acts = before ++ behind → opened before ≤ surroundings.depthLimit) ∧
        (∀ path behind, ReachesLimit surroundings acts path behind → behind = []) ∧
        ∀ bound path, result = .error (.tooDeep bound path) ↔
          bound = surroundings.depthLimit ∧
            ∃ behind, ReachesLimit surroundings acts path behind := by
  rcases template.walked_render surroundings scopes progress with
    ⟨acts, result, host, walked, renders⟩
  refine ⟨acts, result, host, renders, walked, ?_, ?_, ?_⟩
  · intro before behind shape
    rcases before.eq_nil_or_concat with rfl | ⟨earlier, last, rfl⟩
    · exact Nat.zero_le _
    · rw [List.concat_eq_append] at shape ⊢
      exact walked.withinLimit earlier last behind (by simp [shape])
  · intro path behind reaches
    exact (walked.stops_of_limit reaches).1
  · intro bound path
    constructor
    · rintro rfl
      rcases walked.limit_of_stop own with ⟨same, reaches⟩
      exact ⟨same, [], reaches⟩
    · rintro ⟨rfl, behind, reaches⟩
      exact (walked.stops_of_limit reaches).2

/-- Every path of the store leads to a template that includes itself. -/
def Surroundings.endless : Surroundings Unit Unit where
  host := .permissive
  store := ⟨fun _ => .ok "\x7b\x7b>a\x7d\x7d".toUTF8⟩
  call _ text _ := text
  extension := ""
  depthLimit := 2

/-- The template is opened twice and not loaded a third time. -/
theorem Template.render_bounded_endless :
    ∃ acts host,
      (⟨"page", [.leaf .inclusion "a" ">a" .standard]⟩ : Template).Walked .endless .html (.root [])
        () acts (.error (.tooDeep 2 ⟨"a"⟩)) host ∧
      ReachesLimit .endless acts ⟨"a"⟩ [] := by
  rcases render_bounded .endless (fun _ _ _ _ => nofun)
      ⟨"page", [.leaf .inclusion "a" ">a" .standard]⟩ (.root []) ⟨.empty .html, (), #[]⟩ with
    ⟨acts, result, host, renders, walked, -, stops, limit⟩
  have ends :
      (match render .endless ⟨"page", [.leaf .inclusion "a" ">a" .standard]⟩ (.root [])
        ⟨.empty .html, (), #[]⟩ with
      | .ok _ _ => none
      | .error error _ => some error) = some (.tooDeep 2 ⟨"a"⟩) := by
    decide +kernel
  rw [renders] at ends
  cases result with
  | ok done => cases ends
  | error error =>
      cases ends
      rcases (limit 2 ⟨"a"⟩).mp rfl with ⟨-, behind, reaches⟩
      exact ⟨acts, host, walked, stops _ behind reaches ▸ reaches⟩

end Mustache
