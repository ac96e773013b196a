import Mathlib.Control.Monad.Basic
import Mustache.Proofs.Engine
import Mustache.Proofs.Failure
import Mustache.Proofs.Filling
import Mustache.Web.Response

namespace Mustache.Web

/-! What the status of an answer means. Only the file of the root decides whether the
answer is that there is nothing; of the errors that end a rendering, none is that a
template could not be had. -/

open Walk

variable {Lambda : Type}

/-! ## The host of a request -/

/-- Some pragma of the template requires what is not provided. -/
def Lacks (template : Template) (capability : String) : Prop :=
  (∃ pragma ∈ template.pragmas, pragma.find? "require" = some capability) ∧
    capability ∉ capabilities

theorem RequestState.required_of_readPragmas {state after : RequestState}
    {pragmas : List Pragma} {capability : String}
    (refused : state.readPragmas pragmas = (some capability, after)) :
    (∃ pragma ∈ pragmas, pragma.find? "require" = some capability) ∧
      capability ∉ capabilities := by
  induction pragmas generalizing state with
  | nil => cases refused
  | cons pragma rest induction =>
      rw [readPragmas] at refused
      dsimp only at refused
      split at refused
      · next found filtered =>
        cases refused
        rw [Option.filter_eq_some_iff] at filtered
        rcases filtered with ⟨required, unknown⟩
        exact ⟨⟨pragma, List.mem_cons_self, required⟩, by simpa using unknown⟩
      · rcases induction refused with ⟨⟨other, member, required⟩, unknown⟩
        exact ⟨⟨other, List.mem_cons_of_mem _ member, required⟩, unknown⟩

variable {request : Request} {inTime : Nat → Bool}

theorem Request.lacks_of_inspect {template : Template} {state : RequestState} {error : Error}
    (verdict : ((request.host inTime : Host RequestState Lambda).inspect template state).1 =
      .error error) :
    ∃ capability, Lacks template capability ∧ error = refusal template capability := by
  rw [Request.host] at verdict
  dsimp only at verdict
  split at verdict
  · next capability after refused =>
    cases verdict
    exact ⟨capability, RequestState.required_of_readPragmas refused, rfl⟩
  · cases verdict

theorem Request.passesEmpty : (request.host inTime : Host RequestState Lambda).PassesEmpty :=
  fun _ _ => rfl

/-! ## Why a rendering fails -/

/-- What ends the rendering of a template that has been read, and the last that the
journal tells. -/
inductive Cause (engine : Engine) (inTime : Nat → Bool) (journal : Array Event) :
    Error → Prop where
  /-- The root or a template that is included has a fault. -/
  | faulty {path : Path} {text : String} {fault : Fault}
      (read : engine.store.readText path = .ok text)
      (parsed : Template.parse path.text text = .error fault)
      (last : journal.back? = some (.loaded path)) : Cause engine inTime journal (.fault fault)
  | lacking {path : Path} {template : Template} {capability : String}
      (found : engine.store.template? path = some template)
      (lacks : Lacks template capability)
      (last : journal.back? = some (.inspected template)) :
      Cause engine inTime journal (Request.refusal template capability)
  | tooDeep {path : Path} (last : journal.back? = some (.asked true)) :
      Cause engine inTime journal (.tooDeep engine.settings.depthLimit path)
  | late {asked : Nat} (answer : inTime asked = false)
      (last : journal.back? = some (.asked false)) : Cause engine inTime journal .interrupted

section Run

variable (engine : Engine) (call : Lambda → String → Scopes Lambda → String)
  (data : Bindings Lambda) (inTime : Nat → Bool) (request : Request)

/-- The progress from which a request is rendered. -/
def start : Progress RequestState :=
  ⟨.empty engine.encoding, .initial, #[]⟩

/-- The progress when the template of a file is read and its rendering begins. -/
def begun (file : Path) : Progress RequestState :=
  Engine.valued ((Scopes.root data).atFile file) (Engine.loading file (start engine)) .initial

/-- The scopes in which the template of a file is rendered for a request. -/
def scopesAt (file : Path) : Scopes Lambda :=
  ((Scopes.root data).atFile file).extend request.bindings

/-- How the template of a name is rendered for a request. -/
def runOf (name : String) : Except Error String × Progress RequestState :=
  engine.run (engine.renderPath (request.host inTime) call name data) .initial

section Root

variable {name text : String} {file : Path} (named : engine.settings.templateFile name = file)

include named

theorem renderPath_unread {error : LoadError}
    (lost : engine.store.readText file = .error error) :
    engine.renderPath (request.host inTime) call name data (start engine) =
      Rendering.ended (.error (.load error)) (Engine.loading file (start engine)) := by
  rw [Engine.renderPath_eq named, lost]
  rfl

variable (read : engine.store.readText file = .ok text)

include read

theorem renderPath_faulty {fault : Fault}
    (parsed : Template.parse file.text text = .error fault) :
    engine.renderPath (request.host inTime) call name data (start engine) =
      Rendering.ended (.error (.fault fault)) (Engine.loading file (start engine)) := by
  rw [Engine.renderPath_eq named, read]
  dsimp only
  rw [parsed]
  rfl

theorem renderPath_parsed {template : Template}
    (parsed : Template.parse file.text text = .ok template) :
    engine.renderPath (request.host inTime) call name data (start engine) =
      template.render (engine.surroundings (request.host inTime) call)
        (scopesAt data request file) (begun engine data file) := by
  rw [Engine.renderPath_eq named, read]
  dsimp only
  rw [parsed]
  dsimp only
  rw [Engine.renderIn_eq]
  rfl

end Root

theorem cause_of_failure {template : Template} {file : Path} {acts : List (Act Lambda)}
    {error : Error} (found : engine.store.template? file = some template)
    (failure : Failure (engine.surroundings (request.host inTime) call) template acts error)
    (progress : Progress RequestState) (written : List String) (host : RequestState) :
    Cause engine inTime (progress.after acts written host).journal error := by
  cases failure with
  | @denied before source state error origin verdict =>
      rcases Request.lacks_of_inspect verdict with ⟨capability, lacks, rfl⟩
      rcases origin with ⟨-, rfl⟩ | ⟨earlier, path, -, included⟩
      · exact .lacking found lacks (back?_after rfl progress before written host)
      · exact .lacking included lacks (back?_after rfl progress before written host)
  | interrupted answer => exact .late answer (back?_after rfl progress _ written host)
  | tooDeep reaches =>
      rcases reaches with ⟨before, source, scopes, name, body, markers, rfl, full, same⟩
      have last := back?_after (rfl : (Act.asked true).event? = some _) progress
        (before ++ [.visited source ⟨scopes, .leaf .inclusion name body markers⟩]) written host
      rw [List.append_assoc] at last
      exact .tooDeep last
  | faulty read parsed named => exact .faulty read parsed (back?_after rfl progress _ written host)

/-- Of the errors that end a rendering, only that of its own root is one of the store. -/
theorem cause_of_error {name : String} {error : Error}
    (failed : (runOf engine call data inTime request name).1 = .error error) :
    (∃ lost, error = .load lost ∧
        engine.store.readText (engine.settings.templateFile name) = .error lost) ∨
      Cause engine inTime (runOf engine call data inTime request name).2.journal error := by
  generalize named : engine.settings.templateFile name = file
  rw [runOf] at failed ⊢
  cases read : engine.store.readText file with
  | error lost =>
      rw [Engine.run_of_ended (renderPath_unread engine call data inTime request named read)]
        at failed
      cases failed
      exact .inl ⟨lost, rfl, rfl⟩
  | ok text =>
      refine .inr ?_
      cases parsed : Template.parse file.text text with
      | error fault =>
          rw [Engine.run_of_ended
            (renderPath_faulty engine call data inTime request named read parsed)] at failed ⊢
          cases failed
          exact .faulty read parsed rfl
      | ok template =>
          rcases template.walked_render (engine.surroundings (request.host inTime) call)
            (scopesAt data request file) (begun engine data file) with
            ⟨acts, result, host, walked, rendered⟩
          rw [Engine.run_of_ended
            ((renderPath_parsed engine call data inTime request named read parsed).trans rendered)]
            at failed ⊢
          cases result with
          | ok done => cases failed
          | error cause =>
              cases failed
              have found : engine.store.template? file = some template := by
                rw [Store.template?_of_read read, parsed]
                rfl
              exact cause_of_failure engine call inTime request found walked.failure _ _ host

/-- Once the root is read, nothing depends on whether another template can be had. -/
theorem runOf_filled {name text : String}
    (read : engine.store.readText (engine.settings.templateFile name) = .ok text) :
    (runOf engine.filled call data inTime request name).1 =
        (runOf engine call data inTime request name).1 ∧
      (runOf engine.filled call data inTime request name).2.host =
        (runOf engine call data inTime request name).2.host := by
  have reads : engine.filled.store.readText (engine.filled.settings.templateFile name) =
      .ok text := Store.readText_filled_of_text read
  rw [runOf, runOf]
  cases parsed : Template.parse (engine.settings.templateFile name).text text with
  | error fault =>
      have one := renderPath_faulty engine call data inTime request rfl read parsed
      have other := renderPath_faulty engine.filled call data inTime request rfl reads parsed
      rw [Engine.run_of_ended one, Engine.run_of_ended other]
      exact ⟨rfl, rfl⟩
  | ok template =>
      have one := renderPath_parsed engine call data inTime request rfl read parsed
      have other := renderPath_parsed engine.filled call data inTime request rfl reads parsed
      rcases Template.render_filled (engine.surroundings (request.host inTime) call)
        Request.passesEmpty template (scopesAt data request _) (begun engine data _) with
        ⟨acts, others, result, host, same, rendered, rendered'⟩
      rw [Engine.run_of_ended (one.trans rendered), Engine.run_of_ended (other.trans rendered')]
      refine ⟨?_, rfl⟩
      simp only [Progress.after, same]

/-- The rendering tells that a template is not found just if the store tells so of the root. -/
theorem runOf_eq_notFound_iff (name : String) :
    (∃ path, (runOf engine call data inTime request name).1 = .error (.load (.notFound path))) ↔
      ∃ path, engine.store.read (engine.settings.templateFile name) = .error (.notFound path) := by
  constructor
  · rintro ⟨path, failed⟩
    rcases cause_of_error engine call data inTime request failed with ⟨lost, same, unread⟩ | cause
    · cases same
      refine ⟨path, ?_⟩
      rw [Store.readText] at unread
      split at unread
      · next read =>
        cases unread
        exact read
      · split at unread <;> cases unread
    · cases cause
  · rintro ⟨path, missing⟩
    have lost : engine.store.readText (engine.settings.templateFile name) =
        .error (.notFound path) := by
      rw [Store.readText, missing]
    rw [runOf, Engine.run_of_ended (renderPath_unread engine call data inTime request rfl lost)]
    exact ⟨path, rfl⟩

end Run

/-! ## Answers -/

namespace Response

theorem ofError_of_ne {error : Error} (other : ∀ path, error ≠ .load (.notFound path)) :
    ofError error = plain 500 error.message := by
  rw [ofError]
  exact other

theorem status_ofError (error : Error) :
    (ofError error).status = 404 ↔ ∃ path, error = .load (.notFound path) := by
  constructor
  · intro missing
    cases error with
    | load lost =>
        cases lost with
        | notFound path => exact ⟨path, rfl⟩
        | notText | unreadable => cases missing
    | _ => cases missing
  · rintro ⟨path, rfl⟩
    rfl

theorem status_rendered (contentType body : String) : (rendered contentType body).status ≠ 404 := by
  intro missing
  rw [rendered] at missing
  split at missing <;> cases missing

end Response

section Respond

variable (engine : Engine) (call : Lambda → String → Scopes Lambda → String)
  (data : Bindings Lambda) (clock : Nat → Nat) (limit : Nat) {request : Request}

theorem respond?_of_unnamed (unnamed : templateName? request.path = none) :
    respond? engine call data clock limit request = some .missing := by
  simp [respond?, answer?, unnamed]

section Named

variable {name : String} (asks : templateName? request.path = some name)

include asks

theorem respond?_of_untold (untold : Deadline.after? (clock 0) limit = none) :
    respond? engine call data clock limit request = none := by
  simp [respond?, answer?, asks, untold]

variable {deadline : Deadline} (told : Deadline.after? (clock 0) limit = some deadline)

include told

theorem respond?_of_breaking (breaks : engine.settings.templateFile? name = none) :
    respond? engine call data clock limit request = some .broken := by
  simp [respond?, answer?, Engine.runPath?, asks, told, breaks]

variable {file : Path} (named : engine.settings.templateFile? name = some file)

include named

theorem respond?_eq :
    respond? engine call data clock limit request =
      match runOf engine call data (deadline.inTime clock) request name with
      | (.ok body, progress) => some (.rendered progress.host.chosenContentType body)
      | (.error error, _) => some (.ofError error) := by
  simp only [respond?, answer?, Engine.runPath?, asks, told, named, runOf, Option.map_some,
    Option.bind_eq_bind, Option.bind_some]
  rcases engine.run (engine.renderPath (request.host (deadline.inTime clock)) call name data)
    .initial with ⟨error | body, progress⟩
  · rfl
  · rfl

theorem respond?_of_error {error : Error}
    (failed : (runOf engine call data (deadline.inTime clock) request name).1 = .error error) :
    respond? engine call data clock limit request = some (.ofError error) := by
  rw [respond?_eq engine call data clock limit asks told named]
  generalize runOf engine call data (deadline.inTime clock) request name = ended at failed ⊢
  rcases ended with ⟨result, progress⟩
  cases failed
  rfl

theorem respond?_of_ok {body : String}
    (written : (runOf engine call data (deadline.inTime clock) request name).1 = .ok body) :
    respond? engine call data clock limit request =
      some (.rendered (runOf engine call data (deadline.inTime clock) request
        name).2.host.chosenContentType body) := by
  rw [respond?_eq engine call data clock limit asks told named]
  generalize runOf engine call data (deadline.inTime clock) request name = ended at written ⊢
  rcases ended with ⟨result, progress⟩
  cases written
  rfl

theorem respond?_filled {text : String} (read : engine.store.readText file = .ok text) :
    respond? engine.filled call data clock limit request =
      respond? engine call data clock limit request := by
  rw [Settings.eq_templateFile_of_some named] at read
  rcases runOf_filled engine call data (deadline.inTime clock) request read with ⟨results, hosts⟩
  cases ends : (runOf engine call data (deadline.inTime clock) request name).1 with
  | error error =>
      rw [respond?_of_error engine call data clock limit asks told named ends]
      exact respond?_of_error engine.filled call data clock limit asks told named
        (results.trans ends)
  | ok body =>
      rw [respond?_of_ok engine call data clock limit asks told named ends, ← hosts]
      exact respond?_of_ok engine.filled call data clock limit asks told named
        (results.trans ends)

theorem exists_respond? :
    ∃ response, respond? engine call data clock limit request = some response ∧
      (response.status = 404 ↔ ∃ path, engine.store.read file = .error (.notFound path)) ∧
      (response.status = 404 → response = .missing) := by
  rw [Settings.eq_templateFile_of_some named,
    ← runOf_eq_notFound_iff engine call data (deadline.inTime clock) request name]
  cases ends : (runOf engine call data (deadline.inTime clock) request name).1 with
  | error error =>
      refine ⟨_, respond?_of_error engine call data clock limit asks told named ends, ?_, ?_⟩
      · rw [Response.status_ofError]
        exact exists_congr fun path => ⟨congrArg Except.error, Except.error.inj⟩
      · intro missing
        rcases (Response.status_ofError error).mp missing with ⟨path, rfl⟩
        rfl
  | ok body =>
      have found := Response.status_rendered
        (runOf engine call data (deadline.inTime clock) request name).2.host.chosenContentType body
      refine ⟨_, respond?_of_ok engine call data clock limit asks told named ends,
        iff_of_false found ?_, fun missing => absurd missing found⟩
      rintro ⟨path, failed⟩
      cases failed

end Named

theorem respond?_eq_none_iff (request : Request) :
    respond? engine call data clock limit request = none ↔
      (∃ name, templateName? request.path = some name) ∧
        Deadline.after? (clock 0) limit = none := by
  cases asks : templateName? request.path with
  | none => simp [respond?_of_unnamed engine call data clock limit asks]
  | some name =>
      cases told : Deadline.after? (clock 0) limit with
      | none => simp [respond?_of_untold engine call data clock limit asks told]
      | some deadline =>
          cases named : engine.settings.templateFile? name with
          | none => simp [respond?_of_breaking engine call data clock limit asks told named]
          | some file =>
              rcases exists_respond? engine call data clock limit asks told named with
                ⟨response, answers, -⟩
              simp [answers]

/-- What 404 tells, of whatever is answered. -/
theorem status_of_respond? {response : Response}
    (answers : respond? engine call data clock limit request = some response) :
    (response.status = 404 ↔
      templateName? request.path = none ∨
        ∃ name file path, templateName? request.path = some name ∧
          engine.settings.templateFile? name = some file ∧
          engine.store.read file = .error (.notFound path)) ∧
    (response.status = 404 → response = .missing) := by
  cases asks : templateName? request.path with
  | none =>
      rw [respond?_of_unnamed engine call data clock limit asks] at answers
      cases answers
      exact ⟨by simp [Response.missing, Response.plain], fun _ => rfl⟩
  | some name =>
      cases told : Deadline.after? (clock 0) limit with
      | none =>
          rw [respond?_of_untold engine call data clock limit asks told] at answers
          cases answers
      | some deadline =>
          cases named : engine.settings.templateFile? name with
          | none =>
              rw [respond?_of_breaking engine call data clock limit asks told named] at answers
              cases answers
              simp [Response.broken, Response.plain, named]
          | some file =>
              rcases exists_respond? engine call data clock limit asks told named with
                ⟨other, same, missing, only⟩
              cases same.symm.trans answers
              refine ⟨?_, only⟩
              rw [missing]
              simp [named]

end Respond

/-- A request is left without an answer just if its path has a template and the clock
cannot tell the end of the time limit. Of the answers, 404 is the one to a path without a
template and to a root that the store does not find. Where the file of the root cannot be
told, the answer is that the rendering broke off. Any other answer tells how the rendering
of the root ends: by the error, of which the causes are listed, or by the text. Once the
root is read, the answer is the same as if all templates that cannot be had were empty. -/
theorem respond_status (engine : Engine) (call : Lambda → String → Scopes Lambda → String)
    (data : Bindings Lambda) (clock : Nat → Nat) (limit : Nat) (request : Request) :
    let answered := respond? engine call data clock limit request
    (answered = none ↔
      (∃ name, templateName? request.path = some name) ∧
        Deadline.after? (clock 0) limit = none) ∧
    (∀ response, answered = some response →
      (response.status = 404 ↔
        templateName? request.path = none ∨
          ∃ name file path, templateName? request.path = some name ∧
            engine.settings.templateFile? name = some file ∧
            engine.store.read file = .error (.notFound path)) ∧
      (response.status = 404 → response = .missing)) ∧
    ∀ name, templateName? request.path = some name →
      ∀ deadline, Deadline.after? (clock 0) limit = some deadline →
        (engine.settings.templateFile? name = none →
          answered = some (.plain 500 "Server error")) ∧
        ∀ file, engine.settings.templateFile? name = some file →
          let ended := runOf engine call data (deadline.inTime clock) request name
          (∀ error, ended.1 = .error error →
            (∀ path, engine.store.read file ≠ .error (.notFound path)) →
              answered = some (.plain 500 error.message) ∧
                ((∃ lost, error = .load lost ∧ engine.store.readText file = .error lost) ∨
                  Cause engine (deadline.inTime clock) ended.2.journal error)) ∧
          (∀ body, ended.1 = .ok body →
            Response.isHeaderValue ended.2.host.chosenContentType = true →
              answered = some ⟨200, ended.2.host.chosenContentType, body⟩) ∧
          ∀ text, engine.store.readText file = .ok text →
            respond? engine.filled call data clock limit request = answered := by
  intro answered
  refine ⟨?_, ?_, ?_⟩
  · exact respond?_eq_none_iff engine call data clock limit request
  · intro response answers
    exact status_of_respond? engine call data clock limit answers
  · intro name asks deadline told
    refine ⟨respond?_of_breaking engine call data clock limit asks told, ?_⟩
    intro file named ended
    refine ⟨?_, ?_, ?_⟩
    · intro error failed found
      have cause := cause_of_error engine call data _ request failed
      have answers := respond?_of_error engine call data clock limit asks told named failed
      rw [← Settings.eq_templateFile_of_some named] at cause
      refine ⟨answers.trans (congrArg some (Response.ofError_of_ne ?_)), cause⟩
      rintro path rfl
      rcases (runOf_eq_notFound_iff engine call data _ request name).mp ⟨path, failed⟩ with
        ⟨path, missing⟩
      rw [← Settings.eq_templateFile_of_some named] at missing
      exact found path missing
    · intro body written legal
      have answers := respond?_of_ok engine call data clock limit asks told named written
      rwa [Response.rendered, if_pos legal] at answers
    · intro text read
      exact respond?_filled engine call data clock limit asks told named read

section Site

/-- A site of one page, which includes a template that is missing. -/
def site : Engine :=
  .ofStore .standard (.ofFiles [(⟨"page.mustache"⟩, "a\x7b\x7b>gone\x7d\x7d".toUTF8)])

/-- The same site with an extension that cannot be added to a name. -/
def dividedSite : Engine :=
  .ofStore { Settings.standard with extension := "x/y" } site.store

/-- A clock that stands still. -/
def oneSecond (_ : Nat) : Nat :=
  Number.tenTo 9

def siteAnswer? (engine : Engine) (limit : Nat) (path : String) : Option Response :=
  respond? engine Empty.elim [] oneSecond limit ⟨path, ""⟩

theorem respond_status_site :
    siteAnswer? site (Number.tenTo 9) "/page" = some ⟨200, standardContentType, "a"⟩ ∧
      siteAnswer? site 0 "/page" = some (.plain 500 Error.interrupted.message) ∧
      siteAnswer? site (Number.tenTo 9) "/missing" = some .missing ∧
      siteAnswer? dividedSite (Number.tenTo 9) "/page" = some (.plain 500 "Server error") := by
  have told : Deadline.after? (Number.tenTo 9) (Number.tenTo 9) =
      some ⟨2 * Number.tenTo 9⟩ := by decide
  have expired : Deadline.after? (Number.tenTo 9) 0 = some ⟨Number.tenTo 9⟩ := by decide
  have asks : templateName? "/page" = some "page" := by decide +kernel
  have named : site.settings.templateFile? "page" = some ⟨"page.mustache"⟩ := by
    decide +kernel
  refine ⟨?_, ?_, ?_, ?_⟩
  · rcases respond_status site Empty.elim [] oneSecond (Number.tenTo 9) ⟨"/page", ""⟩ with
      ⟨-, -, ended⟩
    have standard : (runOf site Empty.elim [] (Deadline.inTime ⟨2 * Number.tenTo 9⟩ oneSecond)
        ⟨"/page", ""⟩ "page").2.host.chosenContentType = standardContentType := by
      decide +kernel
    have answers := ((ended _ asks _ told).2 _ named).2.1 "a" (by decide +kernel)
      (by decide +kernel)
    rwa [standard] at answers
  · rcases respond_status site Empty.elim [] oneSecond 0 ⟨"/page", ""⟩ with ⟨-, -, ended⟩
    refine (((ended _ asks _ expired).2 _ named).1 .interrupted (by decide +kernel) ?_).1
    intro path missing
    cases missing
  · rcases respond_status site Empty.elim [] oneSecond (Number.tenTo 9) ⟨"/missing", ""⟩ with
      ⟨silent, answers, -⟩
    cases answered : siteAnswer? site (Number.tenTo 9) "/missing" with
    | none => cases told.symm.trans (silent.mp answered).2
    | some response =>
        rcases answers response answered with ⟨status, missing⟩
        refine congrArg some (missing (status.mpr (.inr ⟨"missing", ⟨"missing.mustache"⟩,
          ⟨"missing.mustache"⟩, by decide +kernel, by decide +kernel, rfl⟩)))
  · rcases respond_status dividedSite Empty.elim [] oneSecond (Number.tenTo 9)
      ⟨"/page", ""⟩ with ⟨-, -, ended⟩
    exact (ended _ asks _ told).1 (by decide +kernel)

/-- A path whose template is missing stays without an answer where the clock cannot tell
the end of the time limit. -/
theorem unanswered_at_end_of_time :
    templateName? "/missing" = some "missing" ∧
      site.settings.templateFile? "missing" = some ⟨"missing.mustache"⟩ ∧
      site.store.read ⟨"missing.mustache"⟩ = .error (.notFound ⟨"missing.mustache"⟩) ∧
      siteAnswer? site (9223372036854775807 * Number.tenTo 9) "/missing" = none :=
  ⟨by decide +kernel, by decide +kernel, rfl, by decide +kernel⟩

end Site

end Mustache.Web
