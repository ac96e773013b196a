import Mustache.Proofs.Walk

namespace Mustache

/-! What comes of a visit. The effect of a task and the stage at which it is performed
leave nothing open, so a walk is determined by where it starts. -/

variable {State Lambda : Type}

namespace Walk

/-! ## By effects -/

/-- What comes of an inclusion that is not too deep. -/
def Stage.included (stage : Stage State Lambda) (surroundings : Surroundings State Lambda)
    (scopes : Scopes Lambda) (path : Path) : List (Act Lambda) × Turn State Lambda :=
  match surroundings.store.readText path with
  | .error error =>
    ([.loaded path, .unresolved path stage.inner.template.name error], .goOn stage)
  | .ok text =>
    match Template.parse path.text text with
    | .error fault => ([.loaded path], .stop (.error (.fault fault)) stage.host)
    | .ok template =>
      match surroundings.host.inspect template stage.host with
      | (.error error, host) =>
        ([.loaded path, .inspected template (.error error)], .stop (.error error) host)
      | (.ok (), host) =>
        ([.loaded path, .inspected template (.ok ()), .entered template],
          .goOn ⟨⟨template, tasksIn (scopes.enterFile path) template.forest⟩,
            stage.inner :: stage.outer, host⟩)

section Outcomes

variable {surroundings : Surroundings State Lambda} {encoding : Encoding}
  {stage : Stage State Lambda} {task : Task Lambda} {acts : List (Act Lambda)}
  {turn : Turn State Lambda}

theorem Performs.of_writes {encode : Encoding} {text : String}
    (effect : task.effect surroundings encoding = .writes encode text)
    (performs : Performs surroundings encoding stage task acts turn) :
    acts = written stage.inner.template task.node encode text ∧ turn = .goOn stage := by
  cases performs with
  | writes same =>
      cases effect.symm.trans same
      exact ⟨rfl, rfl⟩
  | opens other | tooDeep other | unresolved other | faulty other | denied other | enters other =>
      cases effect.symm.trans other

theorem Performs.of_opens {tasks : List (Task Lambda)}
    (effect : task.effect surroundings encoding = .opens tasks)
    (performs : Performs surroundings encoding stage task acts turn) :
    acts = [] ∧ turn = .goOn
      { stage with inner := ⟨stage.inner.template, tasks ++ stage.inner.tasks⟩ } := by
  cases performs with
  | opens same =>
      cases effect.symm.trans same
      exact ⟨rfl, rfl⟩
  | writes other | tooDeep other | unresolved other | faulty other | denied other | enters other =>
      cases effect.symm.trans other

theorem Performs.of_includes {path : Path}
    (effect : task.effect surroundings encoding = .includes path)
    (performs : Performs surroundings encoding stage task acts turn) :
    (surroundings.depthLimit ≤ stage.outer.length ∧ acts = [] ∧
        turn = .stop (.error (.tooDeep surroundings.depthLimit path)) stage.host) ∨
      stage.outer.length < surroundings.depthLimit ∧
        (acts, turn) = stage.included surroundings task.scopes path := by
  cases performs with
  | writes other | opens other => cases effect.symm.trans other
  | tooDeep same deep =>
      cases effect.symm.trans same
      exact .inl ⟨deep, rfl, rfl⟩
  | unresolved same shallow lost =>
      cases effect.symm.trans same
      exact .inr ⟨shallow, by simp only [Stage.included, lost]⟩
  | faulty same shallow found parsed =>
      cases effect.symm.trans same
      exact .inr ⟨shallow, by simp only [Stage.included, found, parsed]⟩
  | denied same shallow found parsed verdict =>
      cases effect.symm.trans same
      exact .inr ⟨shallow, by simp only [Stage.included, found, parsed, verdict]⟩
  | enters same shallow found parsed verdict =>
      cases effect.symm.trans same
      exact .inr ⟨shallow, by simp only [Stage.included, found, parsed, verdict]⟩

end Outcomes

/-! ## One walk -/

section Unique

variable {surroundings : Surroundings State Lambda} {encoding : Encoding}
  {stage : Stage State Lambda} {acts others : List (Act Lambda)} {turn other : Turn State Lambda}

theorem Performs.unique {task : Task Lambda}
    (one : Performs surroundings encoding stage task acts turn)
    (two : Performs surroundings encoding stage task others other) :
    acts = others ∧ turn = other := by
  cases effect : task.effect surroundings encoding with
  | writes encode text =>
      rcases one.of_writes effect with ⟨rfl, rfl⟩
      rcases two.of_writes effect with ⟨rfl, rfl⟩
      exact ⟨rfl, rfl⟩
  | opens tasks =>
      rcases one.of_opens effect with ⟨rfl, rfl⟩
      rcases two.of_opens effect with ⟨rfl, rfl⟩
      exact ⟨rfl, rfl⟩
  | includes path =>
      rcases one.of_includes effect with ⟨full, rfl, rfl⟩ | ⟨room, outcome⟩
      · rcases two.of_includes effect with ⟨-, rfl, rfl⟩ | ⟨room, -⟩
        · exact ⟨rfl, rfl⟩
        · exact absurd room (Nat.not_lt_of_le full)
      · rcases two.of_includes effect with ⟨full, -⟩ | ⟨-, outcome'⟩
        · exact absurd room (Nat.not_lt_of_le full)
        · exact Prod.mk.inj (outcome.trans outcome'.symm)

theorem Steps.unique (one : Steps surroundings encoding stage acts turn)
    (two : Steps surroundings encoding stage others other) : acts = others ∧ turn = other := by
  cases one with
  | done =>
      cases two
      exact ⟨rfl, rfl⟩
  | leave =>
      cases two
      exact ⟨rfl, rfl⟩
  | quiet silent performs =>
      cases two with
      | refused consults | granted consults => cases silent.symm.trans consults
      | quiet _ performs' =>
          rcases performs.unique performs' with ⟨rfl, rfl⟩
          exact ⟨rfl, rfl⟩
  | refused consults answer =>
      cases two with
      | quiet silent => cases silent.symm.trans consults
      | refused _ answer' =>
          cases answer.symm.trans answer'
          exact ⟨rfl, rfl⟩
      | granted _ answer' => cases answer.symm.trans answer'
  | granted consults answer performs =>
      cases two with
      | quiet silent => cases silent.symm.trans consults
      | refused _ answer' => cases answer.symm.trans answer'
      | granted _ answer' performs' =>
          cases answer.symm.trans answer'
          rcases performs.unique performs' with ⟨rfl, rfl⟩
          exact ⟨rfl, rfl⟩

theorem Runs.unique {result final : Except Error Unit} {host host' : State}
    (one : Runs surroundings encoding turn acts result host)
    (two : Runs surroundings encoding turn others final host') :
    acts = others ∧ result = final ∧ host = host' := by
  induction one generalizing others with
  | stop =>
      cases two
      exact ⟨rfl, rfl, rfl⟩
  | goOn steps runs induction =>
      cases two with
      | goOn steps' runs' =>
          rcases steps.unique steps' with ⟨rfl, rfl⟩
          rcases induction runs' with ⟨rfl, rfl, rfl⟩
          exact ⟨rfl, rfl, rfl⟩

end Unique

end Walk

open Walk

theorem Template.Walked.unique {surroundings : Surroundings State Lambda} {encoding : Encoding}
    {template : Template} {scopes : Scopes Lambda} {state host host' : State}
    {acts others : List (Act Lambda)} {result final : Except Error Unit}
    (one : template.Walked surroundings encoding scopes state acts result host)
    (two : template.Walked surroundings encoding scopes state others final host') :
    acts = others ∧ result = final ∧ host = host' := by
  cases one with
  | denied verdict =>
      cases two with
      | denied verdict' =>
          cases verdict.symm.trans verdict'
          exact ⟨rfl, rfl, rfl⟩
      | entered verdict' => cases verdict.symm.trans verdict'
  | entered verdict runs =>
      cases two with
      | denied verdict' => cases verdict.symm.trans verdict'
      | entered verdict' runs' =>
          cases verdict.symm.trans verdict'
          rcases runs.unique runs' with ⟨rfl, rfl, rfl⟩
          exact ⟨rfl, rfl, rfl⟩

end Mustache
