import Mustache.Proofs.Likeness
import Mustache.Proofs.Walk.Outcome

namespace Mustache

/-! The encoding acts on names only and steers nothing. Under another encoding a walk comes to
the same nodes, asks host and store the same things and ends in the same way; what it writes
differs where names write, and there each fragment is encoded once. -/

variable {State Lambda : Type}

/-- The tag writes through the encoding. -/
def Node.isName : Node → Bool
  | .leaf .name .. => true
  | _ => false

/-- How a node writes where names are written through the encoding. -/
def Node.encoder (node : Node) (encoding : Encoding) : Encoding :=
  if node.isName then encoding else .none

namespace Walk

/-- The fragment of a credit as it is where names are written through the encoding. -/
def Credit.encoded (encoding : Encoding) (credit : Credit) : String :=
  credit.node.encoder encoding credit.fragment

/-! ## One visit -/

section Visits

variable {surroundings : Surroundings State Lambda}

/-- What a visit comes to depends on the encoding in what names write and in nothing else. -/
theorem Task.effect_encoder (encoding : Encoding) (task : Task Lambda) :
    task.effect surroundings encoding =
      match task.effect surroundings .none with
      | .writes _ text => .writes (task.node.encoder encoding) text
      | other => other := by
  rcases task with ⟨scopes, node⟩
  cases node with
  | plain text markers => rfl
  | leaf kind name body markers => cases kind <;> rfl
  | group kind name body markers children closeBody closeMarkers =>
      cases kind with
      | inverted => rfl
      | «section» =>
          simp only [Task.effect]
          split <;> rfl

theorem Task.writes_encoder {task : Task Lambda} {encode : Encoding} {text : String}
    (effect : task.effect surroundings .none = .writes encode text) (encoding : Encoding) :
    task.effect surroundings encoding = .writes (task.node.encoder encoding) text := by
  rw [task.effect_encoder, effect]

/-- Where names are not encoded, nothing is. -/
theorem Task.encode_eq_none {task : Task Lambda} {encode : Encoding} {text : String}
    (effect : task.effect surroundings .none = .writes encode text) : encode = .none := by
  have plain := Task.writes_encoder effect .none
  rw [effect, Node.encoder, ite_self] at plain
  cases plain
  rfl

theorem written_encoder (template : Template) (node : Node) (encoding : Encoding)
    (text : String) :
    (written template node .none text).map (Act.rewrite (Credit.encoded encoding)) =
      (written template node (node.encoder encoding) text : List (Act Lambda)) := by
  unfold written
  split <;> rfl

variable {stage : Stage State Lambda} {acts : List (Act Lambda)} {turn : Turn State Lambda}

theorem Performs.encoded {task : Task Lambda}
    (performs : Performs surroundings .none stage task acts turn) (encoding : Encoding) :
    Performs surroundings encoding stage task
      (acts.map (Act.rewrite (Credit.encoded encoding))) turn := by
  have shown : task.effect surroundings encoding = _ := task.effect_encoder encoding
  cases performs with
  | writes effect =>
      cases Task.encode_eq_none effect
      rw [written_encoder]
      exact .writes (Task.writes_encoder effect encoding)
  | opens effect =>
      rw [effect] at shown
      exact .opens shown
  | tooDeep effect deep =>
      rw [effect] at shown
      exact .tooDeep shown deep
  | unresolved effect shallow lost =>
      rw [effect] at shown
      exact .unresolved shown shallow lost
  | faulty effect shallow found parsed =>
      rw [effect] at shown
      exact .faulty shown shallow found parsed
  | denied effect shallow found parsed verdict =>
      rw [effect] at shown
      exact .denied shown shallow found parsed verdict
  | enters effect shallow found parsed verdict =>
      rw [effect] at shown
      exact .enters shown shallow found parsed verdict

/-! ## Whole walks -/

theorem Steps.encoded (steps : Steps surroundings .none stage acts turn) (encoding : Encoding) :
    Steps surroundings encoding stage (acts.map (Act.rewrite (Credit.encoded encoding))) turn := by
  cases steps with
  | done => exact .done
  | leave => exact .leave
  | quiet silent performs => exact .quiet silent (performs.encoded encoding)
  | refused consults answer => exact .refused consults answer
  | granted consults answer performs =>
      exact .granted consults answer (performs.encoded encoding)

theorem Runs.encoded {result : Except Error Unit} {host : State}
    (runs : Runs surroundings .none turn acts result host) (encoding : Encoding) :
    Runs surroundings encoding turn (acts.map (Act.rewrite (Credit.encoded encoding))) result
      host := by
  induction runs with
  | stop => exact .stop
  | goOn steps runs induction =>
      rw [List.map_append]
      exact .goOn (steps.encoded encoding) induction

theorem events_rewrite (fragment : Credit → String) (acts : List (Act Lambda)) :
    events (acts.map (Act.rewrite fragment)) = events acts := by
  have same (act : Act Lambda) : (act.rewrite fragment).event? = act.event? := by
    cases act <;> rfl
  rw [events, List.filterMap_map]
  exact congrArg (List.filterMap · acts) (funext same)

end Visits

end Walk

open Walk

theorem Template.Walked.encoded {surroundings : Surroundings State Lambda} {template : Template}
    {scopes : Scopes Lambda} {state host : State} {acts : List (Act Lambda)}
    {result : Except Error Unit}
    (walked : template.Walked surroundings .none scopes state acts result host)
    (encoding : Encoding) :
    template.Walked surroundings encoding scopes state
      (acts.map (Act.rewrite (Credit.encoded encoding))) result host := by
  cases walked with
  | denied verdict => exact .denied verdict
  | entered verdict runs => exact .entered verdict (runs.encoded encoding)

/-- Each credit goes to a node of the root or of a template that the rendering has loaded. -/
theorem Template.Walked.usedIn_of_mem_credits {surroundings : Surroundings State Lambda}
    {encoding : Encoding} {template : Template} {scopes : Scopes Lambda} {state host : State}
    {acts : List (Act Lambda)} {result : Except Error Unit}
    (walked : template.Walked surroundings encoding scopes state acts result host)
    {credit : Credit} (member : credit ∈ credits acts) :
    credit.template.UsedIn surroundings.store template ((events acts).filterMap Event.path?) ∧
      credit.template.Holds credit.node := by
  have sourced := walked.sourced (kept_holds surroundings encoding)
    fun inner listed => Template.holds_of_mem (mem_tasksIn listed).1
  rcases List.append_of_mem (wrote_of_mem_credits member) with ⟨before, behind, shape⟩
  rcases sourced before _ behind shape with ⟨accepted, task, encode, text, holds, same, -⟩
  have inspected : .inspected credit.template (.ok ()) ∈ acts := by
    rw [shape]
    exact List.mem_append_left _ accepted
  exact ⟨walked.mediated.usedIn inspected, same ▸ holds⟩

theorem Rendering.outcome_of_ended {step : Rendering State Unit} {progress after : Progress State}
    {result : Except Error Unit} (ends : step progress = ended result after) :
    outcome step progress = result := by
  rw [outcome, ends]
  cases result <;> rfl

/-- A rendering through an encoding comes to the same end as one without, after the same
loads and the same dealings with the host. It has the same fragments, but those that names
wrote are encoded, wherever the names stand. -/
theorem Template.render_encoded (surroundings : Surroundings State Lambda) (template : Template)
    (scopes : Scopes Lambda) (state : State) (encoding : Encoding) :
    let rendering := template.render surroundings scopes
    let raw := rendering.reached ⟨.empty .none, state, #[]⟩
    let encoded := rendering.reached ⟨.empty encoding, state, #[]⟩
    rendering.outcome ⟨.empty encoding, state, #[]⟩ =
        rendering.outcome ⟨.empty .none, state, #[]⟩ ∧
      encoded.host = raw.host ∧ encoded.journal = raw.journal ∧
      ∃ acts, template.Walked surroundings .none scopes state acts
          (rendering.outcome ⟨.empty .none, state, #[]⟩) raw.host ∧
        raw.output.fragments.toList = (credits acts).map Credit.fragment ∧
        encoded.output.fragments.toList = (credits acts).map (fun credit =>
          if credit.node.isName then encoding credit.fragment else credit.fragment) ∧
        ∀ credit ∈ credits acts,
          credit.template.UsedIn surroundings.store template raw.loads ∧
            credit.template.Holds credit.node := by
  intro rendering raw encoded
  rcases template.walked_render surroundings scopes ⟨.empty .none, state, #[]⟩ with
    ⟨acts, result, host, walked, renders⟩
  rcases template.walked_render surroundings scopes ⟨.empty encoding, state, #[]⟩ with
    ⟨others, final, host', walked', renders'⟩
  -- The walk without encoding is one through the encoding, and there is only one of these.
  rcases walked'.unique (walked.encoded encoding) with ⟨rfl, rfl, rfl⟩
  have plain : raw = _ := Rendering.reached_of_ended renders
  have other : encoded = _ := Rendering.reached_of_ended renders'
  rw [Rendering.outcome_of_ended renders, Rendering.outcome_of_ended renders', plain, other]
  refine ⟨rfl, rfl, ?_, acts, walked, ?_, ?_, ?_⟩
  · simp only [Progress.after, events_rewrite]
  · rw [Progress.fragments_after, fragments_eq_map_credits]
  · rw [Progress.fragments_after, fragments_rewrite]
    refine List.map_congr_left fun credit _ => ?_
    unfold Credit.encoded Node.encoder
    split <;> rfl
  · intro credit member
    rw [Progress.loads_after]
    exact walked.usedIn_of_mem_credits member

/-- The name in the included template is encoded, and it is encoded once. -/
example :
    let page : Template :=
      ⟨"page", [.leaf .unescaped "n" "&n" .standard, .leaf .inclusion "p" ">p" .standard]⟩
    ((page.render .italic (.root [("n", .text "a")])).reached
      ⟨.empty (fun text => "[" ++ text ++ "]"), (), #[]⟩).output.fragments =
        #["a", "<i>", "[a]", "</i>"] := by
  decide +kernel

end Mustache
