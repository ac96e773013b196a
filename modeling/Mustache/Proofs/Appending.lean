import Mustache.Proofs.Walk.Outcome
import Mustache.Proofs.Walk.Rendering

namespace Mustache

/-! What was written before. A rendering adds its fragments behind those it finds
and does not depend on them, and an inclusion that fails gives back the output it
was given, whatever has been written below it. -/

open Walk

variable {State Lambda : Type}

/-! ## Behind earlier output -/

/-- The same progress with nothing written yet. -/
def Progress.blank (progress : Progress State) : Progress State :=
  { progress with output := .empty progress.output.encoding }

/-- The progress of a step that began with a blank output, behind earlier output. -/
def Progress.behind (alone : Progress State) (earlier : Output) : Progress State :=
  { alone with
    output := { earlier with fragments := earlier.fragments ++ alone.output.fragments } }

theorem Progress.after_eq_behind (progress : Progress State) (acts : List (Act Lambda))
    (written : List String) (host : State) :
    progress.after acts written host =
      (progress.blank.after acts written host).behind progress.output := by
  simp [Progress.after, Progress.blank, Progress.behind, Output.empty]

/-- Both renderings follow the one walk that there is from the state of the host. -/
theorem Template.exists_render_behind (surroundings : Surroundings State Lambda)
    (template : Template) (scopes : Scopes Lambda) (progress : Progress State) :
    ∃ result alone,
      template.render surroundings scopes progress.blank = Rendering.ended result alone ∧
      template.render surroundings scopes progress =
        Rendering.ended result (alone.behind progress.output) := by
  rcases template.walked_render surroundings scopes progress.blank with
    ⟨acts, result, host, walked, blankEnds⟩
  rcases template.walked_render surroundings scopes progress with
    ⟨others, final, last, walkedToo, ends⟩
  have same : acts = others ∧ result = final ∧ host = last := walked.unique walkedToo
  rcases same with ⟨rfl, rfl, rfl⟩
  refine ⟨result, _, blankEnds, ?_⟩
  rw [ends, Progress.after_eq_behind]

/-! ## Steps that fail -/

namespace Rendering

variable {α β : Type}

/-- The step leaves the output as it finds it, well or not. -/
def Quiet (step : Rendering State α) : Prop :=
  ∀ progress, match step progress with
    | .ok _ after => after.output = progress.output
    | .error _ after => after.output = progress.output

/-- When the step fails it leaves the output as it found it. -/
def FailsQuietly (step : Rendering State α) : Prop :=
  ∀ progress error after, step progress = .error error after → after.output = progress.output

theorem Quiet.failsQuietly {step : Rendering State α} (quiet : Quiet step) :
    FailsQuietly step := by
  intro progress error after fails
  have kept := quiet progress
  rwa [fails] at kept

/-- What was kept up to the second step is what the second step gives back. -/
theorem Quiet.andThen {first : Rendering State α} {next : α → Rendering State β}
    (quiet : Quiet first) (failsQuietly : ∀ value, FailsQuietly (next value)) :
    FailsQuietly (first >>= next) := by
  intro progress error after fails
  have kept := quiet progress
  cases steps : first progress with
  | ok value between =>
      rw [steps] at kept
      rw [bind_of_ok steps] at fails
      exact (failsQuietly value between error after fails).trans kept
  | error reason between =>
      rw [steps] at kept
      rw [bind_of_error steps] at fails
      cases fails
      exact kept

theorem quiet_throw (error : Error) : Quiet (throw error : Rendering State α) :=
  fun _ => rfl

theorem quiet_note (event : Event) : Quiet (note event : Rendering State Unit) :=
  fun _ => rfl

theorem quiet_load (store : Store) (path : Path) :
    Quiet (load store path : Rendering State (Except LoadError String)) :=
  fun _ => rfl

theorem quiet_of_ended {step : Rendering State Unit}
    (ends : ∀ progress, ∃ (acts : List (Act Lambda)) (host : State) (result : Except Error Unit),
      step progress = ended result (progress.after acts [] host)) : Quiet step := by
  intro progress
  rcases ends progress with ⟨acts, host, result, ran⟩
  have kept : (progress.after acts [] host).output = progress.output := by
    simp [Progress.after]
  rw [ran]
  cases result <;> exact kept

theorem quiet_consult (host : Host State Lambda) : Quiet (consult host) :=
  quiet_of_ended fun _ => ⟨_, _, _, consult_eq (Prod.eta _).symm⟩

theorem quiet_inspect (host : Host State Lambda) (template : Template) :
    Quiet (inspect host template) :=
  quiet_of_ended fun _ => ⟨_, _, _, inspect_eq (Prod.eta _).symm⟩

/-- What has been written to the fork is lost with it. -/
theorem failsQuietly_apart (step : Rendering State Unit) : FailsQuietly (apart step) := by
  intro progress error after fails
  unfold apart at fails
  split at fails
  · cases fails
  · cases fails
    rfl

end Rendering

open Rendering

theorem Template.failsQuietly_renderInclusion (surroundings : Surroundings State Lambda)
    (depth : Nat) (includer name : String) (scopes : Scopes Lambda) :
    FailsQuietly (renderInclusion surroundings depth includer name scopes) := by
  cases depth with
  | zero => exact (quiet_throw _).failsQuietly
  | succ depth =>
      rw [renderInclusion]
      apply (quiet_load _ _).andThen
      intro loaded
      cases loaded with
      | error error => exact (quiet_note _).failsQuietly
      | ok text =>
          dsimp only
          split
          · exact (quiet_throw _).failsQuietly
          · next template parsed =>
            apply (quiet_inspect surroundings.host template).andThen
            intro accepted
            exact failsQuietly_apart _

/-- The host is asked before anything is written. -/
theorem Node.failsQuietly_inclusion (surroundings : Surroundings State Lambda) (depth : Nat)
    (includer name body : String) (markers : Markers) (scopes : Scopes Lambda) :
    FailsQuietly (Node.render surroundings (Template.renderInclusion surroundings depth includer)
      scopes (.leaf .inclusion name body markers)) := by
  rw [Node.render]
  apply (quiet_consult surroundings.host).andThen
  intro granted
  exact Template.failsQuietly_renderInclusion surroundings depth includer name scopes

/-! ## Rendering -/

/-- Well or not, a rendering adds to the earlier fragments those it writes to an
empty output, and it ends the same way. An inclusion that fails leaves no trace in
the output it was given: at whatever depth it stands and for whatever reason it or
one below it fails. -/
theorem Template.render_appends (surroundings : Surroundings State Lambda) (template : Template)
    (scopes : Scopes Lambda) (progress : Progress State) :
    (∃ result alone,
      template.render surroundings scopes
          { progress with output := .empty progress.output.encoding } =
        Rendering.ended result alone ∧
      template.render surroundings scopes progress =
        Rendering.ended result { alone with
          output := { progress.output with
            fragments := progress.output.fragments ++ alone.output.fragments } }) ∧
      ∀ (depth : Nat) (includer name body : String) (markers : Markers) (inner : Scopes Lambda)
        (before after : Progress State) (error : Error),
        Node.render surroundings (renderInclusion surroundings depth includer) inner
            (.leaf .inclusion name body markers) before = .error error after →
          after.output = before.output := by
  refine ⟨template.exists_render_behind surroundings scopes progress, ?_⟩
  intro depth includer name body markers inner before after error fails
  exact Node.failsQuietly_inclusion surroundings depth includer name body markers inner before
    error after fails

/-- The text of the template that includes itself is written twice before the limit
is reached, and none of it stays. -/
theorem Template.render_appends_endless :
    let store : Store := .ofFiles [(⟨"p.x"⟩, "b\x7b\x7b>p\x7d\x7d".toUTF8)]
    let surroundings : Surroundings Unit Unit :=
      ⟨.permissive, store, fun _ text _ => text, "x", 2⟩
    ∃ after : Progress Unit,
      Node.render surroundings (renderInclusion surroundings 2 "page") (.root [])
          (.leaf .inclusion "p" ">p" .standard) ⟨⟨.html, #["a"]⟩, (), #[]⟩ =
        .error (.tooDeep 2 ⟨"p.x"⟩) after ∧
      after.output = ⟨.html, #["a"]⟩ := by
  intro store surroundings
  have fails :
      (match Node.render surroundings (renderInclusion surroundings 2 "page") (.root [])
          (.leaf .inclusion "p" ">p" .standard) ⟨⟨.html, #["a"]⟩, (), #[]⟩ with
        | .error (.tooDeep limit path) _ => some (limit, path)
        | _ => none) = some (2, ⟨"p.x"⟩) := by
    decide +kernel
  split at fails
  · next limit path after ran =>
    cases fails
    have leavesNoTrace :=
      (render_appends surroundings ⟨"page", []⟩ (.root []) ⟨⟨.html, #["a"]⟩, (), #[]⟩).2
    exact ⟨after, ran, leavesNoTrace _ _ _ _ _ _ _ _ _ ran⟩
  · cases fails

end Mustache
