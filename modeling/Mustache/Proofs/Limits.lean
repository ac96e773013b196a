import Mustache.Proofs.Walk.Outcome
import Mustache.Proofs.Walk.Rendering

namespace Mustache

/-! Limits only cut a rendering short. Two renderings of a template that differ in
how long the host lets them go on and in how deep inclusions may go do the same up
to the point at which the one with the narrower limits is cut off. -/

variable {State Lambda : Type}

/-! ## Hosts with a budget -/

/-- The host goes on to inspect templates as before, and lets a rendering go on as
often as the budget says, which is part of the state. -/
def Host.budgeted (host : Host State Lambda) : Host (State × Nat) Lambda where
  values scopes output state :=
    ((host.values scopes output state.1).1, ((host.values scopes output state.1).2, state.2))
  inspect template state :=
    ((host.inspect template state.1).1, ((host.inspect template state.1).2, state.2))
  proceed
    | (state, 0) => (false, (state, 0))
    | (state, budget + 1) => (true, (state, budget))

theorem Host.budgeted_granted {host : Host State Lambda} {before after : State × Nat}
    (answer : host.budgeted.proceed before = (true, after)) :
    before.1 = after.1 ∧ before.2 = after.2 + 1 := by
  rcases before with ⟨state, budget⟩
  cases budget with
  | zero => cases answer
  | succ budget =>
      cases answer
      exact ⟨rfl, rfl⟩

theorem Host.budgeted_refused {host : Host State Lambda} {before after : State × Nat}
    (answer : host.budgeted.proceed before = (false, after)) : before.2 = 0 := by
  rcases before with ⟨state, budget⟩
  cases budget with
  | zero => rfl
  | succ budget => cases answer

theorem Host.budgeted_inspected {host : Host State Lambda} {template : Template}
    {before after : State × Nat} {verdict : Except Error Unit}
    (answer : host.budgeted.inspect template before = (verdict, after)) :
    host.inspect template before.1 = (verdict, after.1) ∧ before.2 = after.2 := by
  cases answer
  exact ⟨rfl, rfl⟩

/-- The same surroundings, but with limits. -/
def Surroundings.limited (surroundings : Surroundings State Lambda) (depth : Nat) :
    Surroundings (State × Nat) Lambda where
  host := surroundings.host.budgeted
  store := surroundings.store
  call := surroundings.call
  extension := surroundings.extension
  depthLimit := depth

namespace Walk

/-! ## Two walks in step -/

/-- Both stages have the same to visit, and the second one has no smaller budget. -/
structure Stage.Matches (short long : Stage (State × Nat) Lambda) : Prop where
  inner : short.inner = long.inner
  outer : short.outer = long.outer
  state : short.host.1 = long.host.1
  budget : short.host.2 ≤ long.host.2

inductive Turn.Matches : Turn (State × Nat) Lambda → Turn (State × Nat) Lambda → Prop where
  | goOn {short long : Stage (State × Nat) Lambda} (same : short.Matches long) :
      Matches (.goOn short) (.goOn long)
  | stop {result : Except Error Unit} {host other : State × Nat} :
      Matches (.stop result host) (.stop result other)

/-- Acts of which neither the output nor the templates tell. -/
def Act.Silent : Act Lambda → Prop
  | .visited _ _ | .asked _ => True
  | _ => False

/-- The first walk is cut off before anything is seen of the step. -/
def CutOff (acts : List (Act Lambda)) (turn : Turn (State × Nat) Lambda) : Prop :=
  (∀ act ∈ acts, act.Silent) ∧ ∃ error host, turn = .stop (.error error) host

section Lockstep

variable {surroundings : Surroundings State Lambda} {encoding : Encoding} {shallow deep : Nat}
  {short long : Stage (State × Nat) Lambda} {task : Task Lambda} {acts others : List (Act Lambda)}
  {turn other : Turn (State × Nat) Lambda}

theorem Task.effect_limited (depth depth' : Nat) (task : Task Lambda) :
    task.effect (surroundings.limited depth) encoding =
      task.effect (surroundings.limited depth') encoding :=
  rfl

theorem Stage.Matches.included (same : short.Matches long) (scopes : Scopes Lambda) (path : Path) :
    (long.included (surroundings.limited deep) scopes path).1 =
        (short.included (surroundings.limited shallow) scopes path).1 ∧
      (short.included (surroundings.limited shallow) scopes path).2.Matches
        (long.included (surroundings.limited deep) scopes path).2 := by
  rcases short with ⟨inner, outer, state, few⟩
  rcases long with ⟨_, _, _, many⟩
  rcases same with ⟨rfl, rfl, rfl, budget⟩
  unfold Stage.included
  simp only [Surroundings.limited, Host.budgeted]
  cases surroundings.store.readText path with
  | error error => exact ⟨rfl, .goOn ⟨rfl, rfl, rfl, budget⟩⟩
  | ok text =>
      dsimp only
      cases Template.parse path.text text with
      | error fault => exact ⟨rfl, .stop⟩
      | ok template =>
          dsimp only
          cases surroundings.host.inspect template state with
          | mk verdict after =>
              cases verdict with
              | error error => exact ⟨rfl, .stop⟩
              | ok accepted => exact ⟨rfl, .goOn ⟨rfl, rfl, rfl, budget⟩⟩

theorem Performs.lockstep (depths : shallow ≤ deep) (same : short.Matches long)
    (one : Performs (surroundings.limited shallow) encoding short task acts turn)
    (two : Performs (surroundings.limited deep) encoding long task others other) :
    CutOff acts turn ∨ others = acts ∧ turn.Matches other := by
  cases effect : task.effect (surroundings.limited shallow) encoding with
  | writes encode text =>
      rcases one.of_writes effect with ⟨rfl, rfl⟩
      rcases two.of_writes ((Task.effect_limited deep shallow task).trans effect) with ⟨rfl, rfl⟩
      rw [same.inner]
      exact .inr ⟨rfl, .goOn same⟩
  | opens tasks =>
      rcases one.of_opens effect with ⟨rfl, rfl⟩
      rcases two.of_opens ((Task.effect_limited deep shallow task).trans effect) with ⟨rfl, rfl⟩
      rw [same.inner]
      exact .inr ⟨rfl, .goOn ⟨rfl, same.outer, same.state, same.budget⟩⟩
  | includes path =>
      rcases one.of_includes effect with ⟨full, rfl, rfl⟩ | ⟨room, outcome⟩
      · exact .inl ⟨by simp, _, _, rfl⟩
      · rcases two.of_includes ((Task.effect_limited deep shallow task).trans effect) with
          ⟨full, -⟩ | ⟨-, outcome'⟩
        · rw [← same.outer] at full
          exact absurd (Nat.lt_of_lt_of_le room depths) (Nat.not_lt_of_le full)
        · rcases same.included task.scopes path with ⟨sameActs, matching⟩
          rw [← outcome, ← outcome'] at sameActs matching
          exact .inr ⟨sameActs, matching⟩

theorem CutOff.cons (cut : CutOff acts turn) {act : Act Lambda} (silent : act.Silent) :
    CutOff (act :: acts) turn := by
  refine ⟨?_, cut.2⟩
  intro other member
  rcases List.mem_cons.mp member with rfl | member
  · exact silent
  · exact cut.1 other member

theorem Steps.lockstep (depths : shallow ≤ deep) (same : short.Matches long)
    (one : Steps (surroundings.limited shallow) encoding short acts turn)
    (two : Steps (surroundings.limited deep) encoding long others other) :
    CutOff acts turn ∨ others = acts ∧ turn.Matches other := by
  rcases long with ⟨inner, outer, host⟩
  rcases same with ⟨rfl, rfl, state, budget⟩
  cases one with
  | done =>
      cases two
      exact .inr ⟨rfl, .stop⟩
  | leave =>
      cases two
      exact .inr ⟨rfl, .goOn ⟨rfl, rfl, state, budget⟩⟩
  | refused consults answer => exact .inl ⟨by simp [Act.Silent], _, _, rfl⟩
  | @quiet template task rest outer start acts turn silent performs =>
      cases two with
      | refused consults | granted consults => cases silent.symm.trans consults
      | quiet _ performs' =>
          have same : (⟨⟨template, rest⟩, outer, start⟩ : Stage _ _).Matches
              ⟨⟨template, rest⟩, outer, host⟩ := ⟨rfl, rfl, state, budget⟩
          rcases performs.lockstep depths same performs' with cut | ⟨rfl, matching⟩
          · exact .inl (cut.cons trivial)
          · exact .inr ⟨rfl, matching⟩
  | @granted template task rest outer start after acts turn consults answer performs =>
      rcases Host.budgeted_granted answer with ⟨kept, spent⟩
      cases two with
      | quiet silent => cases silent.symm.trans consults
      | refused _ answer' =>
          -- The larger budget cannot be used up where the smaller one is not.
          have empty := Host.budgeted_refused answer'
          dsimp only at budget empty
          omega
      | @granted _ _ _ _ _ after' acts' _ _ answer' performs' =>
          rcases Host.budgeted_granted answer' with ⟨kept', spent'⟩
          have same : (⟨⟨template, rest⟩, outer, after⟩ : Stage _ _).Matches
              ⟨⟨template, rest⟩, outer, after'⟩ :=
            ⟨rfl, rfl, kept.symm.trans (state.trans kept'), by dsimp only at budget ⊢; omega⟩
          rcases performs.lockstep depths same performs' with cut | ⟨rfl, matching⟩
          · exact .inl ((cut.cons (by trivial)).cons trivial)
          · exact .inr ⟨rfl, matching⟩

/-- The first walk does what the second one does, or it is cut off on the way. -/
inductive Abridges : List (Act Lambda) → Except Error Unit → List (Act Lambda) →
    Except Error Unit → Prop where
  | whole {acts : List (Act Lambda)} {result : Except Error Unit} :
      Abridges acts result acts result
  | cutOff {common cut rest : List (Act Lambda)} {error : Error} {other : Except Error Unit}
      (silent : ∀ act ∈ cut, act.Silent) :
      Abridges (common ++ cut) (.error error) (common ++ rest) other

theorem Abridges.after {result final : Except Error Unit}
    (abridges : Abridges acts result others final) (first : List (Act Lambda)) :
    Abridges (first ++ acts) result (first ++ others) final := by
  cases abridges with
  | whole => exact .whole
  | cutOff silent =>
      rw [← List.append_assoc, ← List.append_assoc]
      exact .cutOff silent

theorem Runs.lockstep (depths : shallow ≤ deep) {result final : Except Error Unit}
    {host host' : State × Nat}
    (one : Runs (surroundings.limited shallow) encoding turn acts result host)
    (same : turn.Matches other)
    (two : Runs (surroundings.limited deep) encoding other others final host') :
    Abridges acts result others final := by
  induction one generalizing other others with
  | stop =>
      cases same
      cases two
      exact .whole
  | @goOn short acts later turn result host steps runs induction =>
      cases same with
      | @goOn _ long same =>
          cases two with
          | @goOn _ acts' later' next _ _ steps' runs' =>
              rcases steps.lockstep depths same steps' with
                ⟨silent, error, last, rfl⟩ | ⟨rfl, matching⟩
              · -- The first walk ends here, and the second one does whatever it does.
                cases runs
                rw [List.append_nil, ← acts.nil_append, ← (acts' ++ later').nil_append]
                exact .cutOff silent
              · exact (induction matching runs').after acts'

end Lockstep

/-! ## What is seen of a walk -/

theorem prefix_getLastD {first second : List String} (grows : first <+: second)
    (outputs : List (List String)) : outputs.getLastD first <+: outputs.getLastD second := by
  cases outputs with
  | nil => exact grows
  | cons output outer => simp only [List.getLastD_cons, List.prefix_refl]

/-- What has come to the outermost output stays at its beginning. -/
theorem prefix_collect (outputs : List (List String)) (act : Act Lambda) :
    outputs.getLastD [] <+: (collect outputs act).getLastD [] := by
  unfold collect
  split
  · simp only [List.getLastD_cons, List.prefix_refl]
  · next output outer template node fragment =>
      rw [List.getLastD_cons, List.getLastD_cons]
      exact prefix_getLastD (List.prefix_append output [fragment]) outer
  · next inner output outer =>
      rw [List.getLastD_cons, List.getLastD_cons, List.getLastD_cons]
      exact prefix_getLastD (List.prefix_append output inner) outer
  · exact List.prefix_refl _

theorem prefix_foldl_collect (acts : List (Act Lambda)) (outputs : List (List String)) :
    outputs.getLastD [] <+: (acts.foldl collect outputs).getLastD [] := by
  induction acts generalizing outputs with
  | nil => exact List.prefix_refl _
  | cons act acts induction => exact (prefix_collect outputs act).trans (induction _)

theorem prefix_fragments_append (acts later : List (Act Lambda)) :
    fragments acts <+: fragments (acts ++ later) := by
  rw [fragments, fragments, List.foldl_append]
  exact prefix_foldl_collect later _

theorem fragments_append_silent (acts : List (Act Lambda)) {cut : List (Act Lambda)}
    (silent : ∀ act ∈ cut, act.Silent) : fragments (acts ++ cut) = fragments acts := by
  have still : ∀ outputs, cut.foldl collect outputs = outputs := by
    induction cut with
    | nil => exact fun _ => rfl
    | cons act cut induction =>
        intro outputs
        have same : collect outputs act = outputs := by
          cases act with
          | visited | asked => cases outputs <;> rfl
          | _ => cases silent _ List.mem_cons_self
        rw [List.foldl_cons, same]
        exact induction (fun other member => silent other (List.mem_cons_of_mem act member)) outputs
  rw [fragments, fragments, List.foldl_append, still]

/-- Nothing is seen of silent acts but that the host has been asked. -/
theorem filterMap_events_silent {α : Type} {select : Event → Option α}
    (deaf : ∀ granted, select (.asked granted) = none) {cut : List (Act Lambda)}
    (silent : ∀ act ∈ cut, act.Silent) : (events cut).filterMap select = [] := by
  rw [List.filterMap_eq_nil_iff]
  intro event member
  rcases List.mem_filterMap.mp member with ⟨act, among, told⟩
  have quiet := silent act among
  cases act with
  | visited => cases told
  | asked granted =>
      cases told
      exact deaf granted
  | _ => cases quiet

section Abridges

variable {acts others : List (Act Lambda)} {result final : Except Error Unit}

theorem Abridges.of_ok (abridges : Abridges acts (.ok ()) others final) :
    others = acts ∧ final = .ok () := by
  cases abridges
  exact ⟨rfl, rfl⟩

theorem Abridges.prefix_fragments (abridges : Abridges acts result others final) :
    fragments acts <+: fragments others := by
  cases abridges with
  | whole => exact List.prefix_refl _
  | @cutOff common cut rest error final silent =>
      rw [fragments_append_silent common silent]
      exact prefix_fragments_append common rest

theorem Abridges.prefix_filterMap_events {α : Type} {select : Event → Option α}
    (deaf : ∀ granted, select (.asked granted) = none)
    (abridges : Abridges acts result others final) :
    (events acts).filterMap select <+: (events others).filterMap select := by
  cases abridges with
  | whole => exact List.prefix_refl _
  | @cutOff common cut rest error final silent =>
      rw [events_append, events_append, List.filterMap_append, List.filterMap_append,
        filterMap_events_silent deaf silent, List.append_nil]
      exact List.prefix_append _ _

end Abridges

end Walk

open Walk

/-! ## Two renderings -/

theorem Template.Walked.lockstep {surroundings : Surroundings State Lambda} {encoding : Encoding}
    {template : Template} {scopes : Scopes Lambda} {state : State} {shallow deep few many : Nat}
    {acts others : List (Act Lambda)} {result final : Except Error Unit} {host host' : State × Nat}
    (depths : shallow ≤ deep) (budgets : few ≤ many)
    (one : template.Walked (surroundings.limited shallow) encoding scopes (state, few) acts result
      host)
    (two : template.Walked (surroundings.limited deep) encoding scopes (state, many) others final
      host') : Abridges acts result others final := by
  cases one with
  | denied verdict =>
      have short := (Host.budgeted_inspected verdict).1
      cases two with
      | denied verdict' =>
          cases congrArg Prod.fst (short.symm.trans (Host.budgeted_inspected verdict').1)
          exact .whole
      | entered verdict' => cases short.symm.trans (Host.budgeted_inspected verdict').1
  | @entered _ _ start _ verdict runs =>
      rcases Host.budgeted_inspected verdict with ⟨short, left⟩
      cases two with
      | denied verdict' => cases short.symm.trans (Host.budgeted_inspected verdict').1
      | @entered _ _ start' _ verdict' runs' =>
          rcases Host.budgeted_inspected verdict' with ⟨long, left'⟩
          have kept : start.1 = start'.1 := congrArg Prod.snd (short.symm.trans long)
          have same : (⟨⟨template, tasksIn scopes template.forest⟩, [], start⟩ :
              Stage (State × Nat) Lambda).Matches
                ⟨⟨template, tasksIn scopes template.forest⟩, [], start'⟩ :=
            ⟨rfl, rfl, kept, left ▸ left' ▸ budgets⟩
          exact (runs.lockstep depths (.goOn same) runs').after [.inspected template (.ok ())]

/-- A rendering that ends well under narrow limits ends in the same way under wider
ones. One that fails has written, loaded and shown to the host the beginning of what
the other one does. -/
theorem Template.render_limited (surroundings : Surroundings State Lambda) (encoding : Encoding)
    (template : Template) (scopes : Scopes Lambda) (state : State) {shallow deep few many : Nat}
    (depths : shallow ≤ deep) (budgets : few ≤ many) :
    (∀ short, template.render (surroundings.limited shallow) scopes
          ⟨.empty encoding, (state, few), #[]⟩ = .ok () short →
        ∃ long, template.render (surroundings.limited deep) scopes
            ⟨.empty encoding, (state, many), #[]⟩ = .ok () long ∧
          long.output.fragments = short.output.fragments ∧ long.loads = short.loads ∧
            long.inspections = short.inspections) ∧
      ∀ error short, template.render (surroundings.limited shallow) scopes
          ⟨.empty encoding, (state, few), #[]⟩ = .error error short →
        let long := (template.render (surroundings.limited deep) scopes).reached
          ⟨.empty encoding, (state, many), #[]⟩
        short.output.fragments.toList <+: long.output.fragments.toList ∧
          short.loads <+: long.loads ∧ short.inspections <+: long.inspections := by
  rcases template.walked_render (surroundings.limited shallow) scopes
    ⟨.empty encoding, (state, few), #[]⟩ with ⟨acts, result, host, walked, renders⟩
  rcases template.walked_render (surroundings.limited deep) scopes
    ⟨.empty encoding, (state, many), #[]⟩ with ⟨acts', result', host', walked', renders'⟩
  have abridges := walked.lockstep depths budgets walked'
  rw [Rendering.reached_of_ended renders', renders, renders']
  constructor
  · intro short ends
    cases result with
    | error error => cases ends
    | ok done =>
        cases ends
        rcases abridges.of_ok with ⟨rfl, rfl⟩
        refine ⟨_, rfl, ?_⟩
        simp only [Progress.fragments_after, Progress.loads_after, Progress.inspections_after,
          and_self]
  · intro error short ends
    cases result with
    | ok done => cases ends
    | error error =>
        cases ends
        simp only [Progress.fragments_after, Progress.loads_after, Progress.inspections_after]
        exact ⟨abridges.prefix_fragments, abridges.prefix_filterMap_events fun _ => rfl,
          abridges.prefix_filterMap_events fun _ => rfl⟩

/-- The smaller budget ends at the second section. -/
theorem Template.render_limited_second_section :
    let page : Template := ⟨"page", [
      .group .section "s" "#s" .standard [.plain "b" .standard] "/s" .standard,
      .group .inverted "t" "^t" .standard [.plain "c" .standard] "/t" .standard]⟩
    let surroundings : Surroundings Unit Unit :=
      ⟨.permissive, .empty, fun _ text _ => text, "", 0⟩
    let short := (page.render (surroundings.limited 0) (.root [("s", .bool true)])).reached
      ⟨.empty .html, ((), 1), #[]⟩
    let long := (page.render (surroundings.limited 1) (.root [("s", .bool true)])).reached
      ⟨.empty .html, ((), 2), #[]⟩
    short.output.fragments = #["b"] ∧ long.output.fragments = #["b", "c"] ∧
      short.output.fragments.toList <+: long.output.fragments.toList ∧
        short.loads <+: long.loads ∧ short.inspections <+: long.inspections := by
  intro page surroundings short long
  refine ⟨rfl, rfl, ?_⟩
  have ends : page.render (surroundings.limited 0) (.root [("s", .bool true)])
      ⟨.empty .html, ((), 1), #[]⟩ = .error .interrupted short := rfl
  exact (page.render_limited surroundings .html (.root [("s", .bool true)]) () (by decide)
    (by decide)).2 .interrupted short ends

end Mustache
