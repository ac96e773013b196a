import Mustache.Engine
import Mustache.Proofs.Walk.Outcome
import Mustache.Proofs.Walk.Rendering

namespace Mustache

/-! What an engine does around a rendering, told by one equation for each of its steps.
The rendering of a template adds to the journal and does not read it. -/

variable {State Lambda : Type}

/-- Whatever the journal tells before, a rendering adds the same to it. -/
theorem Template.render_told (surroundings : Surroundings State Lambda) (template : Template)
    (scopes : Scopes Lambda) {one other : Progress State} (output : one.output = other.output)
    (host : one.host = other.host) :
    ∃ (acts : List (Walk.Act Lambda)) (result : Except Error Unit) (final : State),
      template.render surroundings scopes one =
        Rendering.ended result (one.after acts (Walk.fragments acts) final) ∧
      template.render surroundings scopes other =
        Rendering.ended result (other.after acts (Walk.fragments acts) final) := by
  rcases template.walked_render surroundings scopes one with
    ⟨acts, result, final, walked, rendered⟩
  rcases template.walked_render surroundings scopes other with
    ⟨acts', result', final', walked', rendered'⟩
  rw [output, host] at walked
  rcases walked.unique walked' with ⟨rfl, rfl, rfl⟩
  exact ⟨acts, result, final, rendered, rendered'⟩

namespace Engine

/-- The progress after the host has been asked for further names. -/
def valued (scopes : Scopes Lambda) (progress : Progress State) (state : State) :
    Progress State where
  output := progress.output
  host := state
  journal := progress.journal.push
    (.valued scopes.inner.locals.names scopes.currentFile progress.output.byteLength)

variable {engine : Engine} {host : Host State Lambda}
  {call : Lambda → String → Scopes Lambda → String} {progress : Progress State}

theorem addValues_eq (host : Host State Lambda) (scopes : Scopes Lambda)
    (progress : Progress State) :
    addValues host scopes progress =
      match host.values scopes progress.output progress.host with
      | (.error error, state) => .error error (valued scopes progress state)
      | (.ok values, state) => .ok (scopes.extend values) (valued scopes progress state) := by
  rcases progress with ⟨output, before, journal⟩
  unfold addValues
  rw [Rendering.bind_get, Rendering.bind_get]
  rcases host.values scopes output before with ⟨error | values, state⟩
  · rfl
  · rfl

theorem renderIn_eq (template : Template) (scopes : Scopes Lambda) :
    engine.renderIn host call template scopes progress =
      match host.values scopes progress.output progress.host with
      | (.error error, state) => .error error (valued scopes progress state)
      | (.ok values, state) =>
        template.render (engine.surroundings host call) (scopes.extend values)
          (valued scopes progress state) := by
  have asked := addValues_eq host scopes progress
  unfold renderIn
  rcases answer : host.values scopes progress.output progress.host with ⟨error | values, state⟩
  · simp only [answer] at asked
    exact Rendering.bind_of_error asked
  · simp only [answer] at asked
    exact Rendering.bind_of_ok asked

/-- The progress after a file has been asked for. -/
def loading (path : Path) (progress : Progress State) : Progress State :=
  { progress with journal := progress.journal.push (.loaded path) }

theorem load_eq (engine : Engine) {name : String} {path : Path}
    (file : engine.settings.templateFile name = path) (progress : Progress State) :
    engine.load name progress =
      match engine.store.readText path with
      | .error error => .error (.load error) (loading path progress)
      | .ok text =>
        match Template.parse path.text text with
        | .error fault => .error (.fault fault) (loading path progress)
        | .ok template => .ok (path, template) (loading path progress) := by
  subst file
  unfold load
  have loads : Rendering.load engine.store (engine.settings.templateFile name) progress =
      .ok (engine.store.readText (engine.settings.templateFile name))
        (loading (engine.settings.templateFile name) progress) := rfl
  rw [Rendering.bind_of_ok loads]
  cases engine.store.readText (engine.settings.templateFile name) with
  | error error => rfl
  | ok text =>
      dsimp only
      cases Template.parse (engine.settings.templateFile name).text text with
      | error fault => rfl
      | ok template => rfl

theorem renderPath_eq {name : String} {path : Path}
    (file : engine.settings.templateFile name = path) (data : Bindings Lambda) :
    engine.renderPath host call name data progress =
      match engine.store.readText path with
      | .error error => .error (.load error) (loading path progress)
      | .ok text =>
        match Template.parse path.text text with
        | .error fault => .error (.fault fault) (loading path progress)
        | .ok template =>
          engine.renderIn host call template ((Scopes.root data).atFile path)
            (loading path progress) := by
  have loads := load_eq engine file progress
  unfold renderPath
  cases read : engine.store.readText path with
  | error error =>
      simp only [read] at loads
      exact Rendering.bind_of_error loads
  | ok text =>
      simp only [read] at loads
      cases parsed : Template.parse path.text text with
      | error fault =>
          simp only [parsed] at loads ⊢
          exact Rendering.bind_of_error loads
      | ok template =>
          simp only [parsed] at loads ⊢
          rw [Rendering.bind_of_ok loads]

theorem run_of_ended {rendering : Rendering State Unit} {state : State}
    {result : Except Error Unit} {after : Progress State}
    (ends : rendering ⟨.empty engine.encoding, state, #[]⟩ = Rendering.ended result after) :
    engine.run rendering state = (result.map fun _ => after.output.text, after) := by
  rw [run, EStateM.run, ends]
  cases result <;> rfl

end Engine

end Mustache
