import Mustache.Proofs.Calls
import Mustache.Proofs.Pragmas
import Mustache.Proofs.Web.Status

namespace Mustache

/-! Which content type an answer has. The host of a request is shown one template after
the other and reads their pragmas up to the first that asks for what it does not have.
Among all that it has read, the first content type counts. -/

variable {Lambda : Type}

/-- The pragma requires something else than the request. -/
def Pragma.isForeign (pragma : Pragma) : Bool :=
  (pragma.find? "require").any (· != "request")

theorem Pragma.isForeign_iff (pragma : Pragma) : pragma.isForeign = true ↔
    ∃ capability, pragma.find? "require" = some capability ∧ capability ≠ "request" := by
  simp [isForeign, Option.any_eq_true]

/-- The pragmas before the first foreign one, in the order in which they are written. -/
def Template.heeded (template : Template) : List Pragma :=
  template.pragmaTags.takeWhile (!·.isForeign)

namespace Web

/-- The first content type in the pragmas of some templates. -/
def firstType? (templates : List Template) : Option String :=
  (templates.flatMap Template.heeded).findSome? (·.find? "content-type")

/-! ## One template -/

namespace RequestState

/-- What is refused is what the first foreign pragma requires. Later pragmas are not
read, nor is the content type of the foreign one. -/
theorem readPragmas_eq (state : RequestState) (pragmas : List Pragma) :
    state.readPragmas pragmas =
      ((pragmas.find? Pragma.isForeign).bind (·.find? "require"),
        ⟨state.contentType.or
          ((pragmas.takeWhile (!·.isForeign)).findSome? (·.find? "content-type")),
          state.asked⟩) := by
  induction pragmas generalizing state with
  | nil => simp [readPragmas]
  | cons pragma rest induction =>
      have refused : (pragma.find? "require").filter (!capabilities.contains ·) =
          if pragma.isForeign then pragma.find? "require" else none := by
        unfold Pragma.isForeign
        cases pragma.find? "require" with
        | none => rfl
        | some capability => simp [capabilities, Option.filter]
      rw [readPragmas]
      dsimp only
      rw [refused]
      cases foreign : pragma.isForeign with
      | true =>
          rcases pragma.isForeign_iff.mp foreign with ⟨capability, required, -⟩
          simp [required, foreign]
      | false =>
          have read : (pragma :: rest).takeWhile (!·.isForeign) =
              pragma :: rest.takeWhile (!·.isForeign) :=
            List.takeWhile_cons_of_pos (by simp [foreign])
          rw [read, List.findSome?_cons]
          simp only [induction, List.find?_cons, foreign]
          cases pragma.find? "content-type" <;> simp

end RequestState

namespace Request

variable (request : Request) (inTime : Nat → Bool)

/-- What the host answers depends on the template alone. -/
theorem inspect_error_iff (template : Template) (state : RequestState) :
    (∃ error, ((request.host inTime : Host RequestState Lambda).inspect template state).1 =
        .error error) ↔ ∃ pragma ∈ template.pragmaTags, pragma.isForeign = true := by
  rw [host, ← Template.pragmas_eq_pragmaTags]
  dsimp only
  rw [RequestState.readPragmas_eq]
  cases found : template.pragmas.find? Pragma.isForeign with
  | none =>
      simp only [Option.bind_none, exists_false, false_iff, reduceCtorEq]
      rintro ⟨pragma, member, foreign⟩
      exact List.find?_eq_none.mp found pragma member foreign
  | some pragma =>
      have foreign := List.find?_some found
      rcases pragma.isForeign_iff.mp foreign with ⟨capability, required, -⟩
      simp only [Option.bind_some, required, Except.error.injEq, exists_eq', true_iff]
      exact ⟨pragma, List.mem_of_find?_eq_some found, foreign⟩

/-- Whatever the verdict, a content type is kept and a first one is taken. -/
theorem contentType_inspect (template : Template) (state : RequestState) :
    ((request.host inTime : Host RequestState Lambda).inspect template state).2.contentType =
      state.contentType.or (firstType? [template]) := by
  rw [host, firstType?, List.flatMap_cons, List.flatMap_nil, List.append_nil, Template.heeded,
    ← Template.pragmas_eq_pragmaTags]
  dsimp only
  rw [RequestState.readPragmas_eq]
  cases (template.pragmas.find? Pragma.isForeign).bind (·.find? "require") <;> rfl

/-! ## Many templates -/

theorem contentType_behind (state : RequestState) (call : Host.Call Lambda) :
    ((request.host inTime).behind state call).contentType =
      state.contentType.or (firstType? call.template?.toList) := by
  cases call with
  | inspect template => exact request.contentType_inspect inTime template state
  | values scopes output => simp [Host.behind, host, Host.Call.template?, firstType?]
  | proceed => simp [Host.behind, host, Host.Call.template?, firstType?]

theorem contentType_behindAll (state : RequestState) (calls : List (Host.Call Lambda)) :
    ((request.host inTime).behindAll state calls).contentType =
      state.contentType.or (firstType? (calls.filterMap Host.Call.template?)) := by
  induction calls generalizing state with
  | nil => simp [Host.behindAll, firstType?]
  | cons call rest induction =>
      rw [Host.behindAll_cons, induction, contentType_behind, Option.or_assoc]
      congr 1
      cases shown : call.template? with
      | none => simp [firstType?, shown]
      | some template => simp [firstType?, shown]

end Request

theorem firstType?_append (templates more : List Template) :
    firstType? (templates ++ more) = (firstType? templates).or (firstType? more) := by
  rw [firstType?, List.flatMap_append, List.findSome?_append]
  rfl

/-! ## Renderings -/

/-- The host has been called as the journal tells. -/
theorem exists_calls_of_run (engine : Engine)
    (call : Lambda → String → Scopes Lambda → String) (data : Bindings Lambda)
    (inTime : Nat → Bool) (request : Request) (name : String) :
    ∃ calls : List (Host.Call Lambda),
      (runOf engine call data inTime request name).2.host =
          (request.host inTime).behindAll .initial calls ∧
        calls.filterMap Host.Call.template? =
          (runOf engine call data inTime request name).2.inspections := by
  rw [runOf]
  cases read : engine.store.readText (engine.settings.templateFile name) with
  | error error =>
      rw [Engine.run_of_ended (renderPath_unread engine call data inTime request rfl read)]
      exact ⟨[], rfl, rfl⟩
  | ok text =>
      cases parsed : Template.parse (engine.settings.templateFile name).text text with
      | error fault =>
          have ends := renderPath_faulty engine call data inTime request rfl read parsed
          rw [Engine.run_of_ended ends]
          exact ⟨[], rfl, rfl⟩
      | ok template =>
          have begins := renderPath_parsed engine call data inTime request rfl read parsed
          rcases template.walked_render (engine.surroundings (request.host inTime) call)
            (scopesAt data request _) (begun engine data _) with
            ⟨acts, result, host, walked, renders⟩
          rw [Engine.run_of_ended (begins.trans renders)]
          refine ⟨Walk.calls acts, walked.host_eq, ?_⟩
          -- Before the walk the journal tells of a file and of names, but of no template.
          rw [Walk.filterMap_template?_calls, Progress.inspections, Progress.after,
            Array.toList_append, List.filterMap_append]
          rfl

/-- A template is refused just if one of its pragmas, in whatever section, requires
something else than the request. However often the host has been called and whatever it
has refused, the first content type that it has read counts, and no later call changes
it. In a rendering the templates are those that the journal tells. -/
theorem firstType_counts (request : Request) (inTime : Nat → Bool) :
    let host : Host RequestState Lambda := request.host inTime
    (∀ calls : List (Host.Call Lambda),
      let state := host.behindAll .initial calls
      let first := firstType? (calls.filterMap Host.Call.template?)
      (∀ template : Template, (∃ error, (host.inspect template state).1 = .error error) ↔
        ∃ pragma ∈ template.pragmaTags, ∃ capability,
          pragma.find? "require" = some capability ∧ capability ≠ "request") ∧
      state.chosenContentType = first.getD "text/html; charset=utf-8" ∧
      ∀ value more, first = some value →
        (host.behindAll state more).chosenContentType = value) ∧
    ∀ (engine : Engine) (call : Lambda → String → Scopes Lambda → String)
      (data : Bindings Lambda) (name : String),
      let ended := (runOf engine call data inTime request name).2
      ended.host.chosenContentType =
        (firstType? ended.inspections).getD "text/html; charset=utf-8" := by
  intro host
  have chosen : ∀ calls : List (Host.Call Lambda),
      (host.behindAll .initial calls).chosenContentType =
        (firstType? (calls.filterMap Host.Call.template?)).getD "text/html; charset=utf-8" := by
    intro calls
    rw [RequestState.chosenContentType, request.contentType_behindAll inTime]
    rfl
  constructor
  · intro calls state first
    refine ⟨?_, chosen calls, ?_⟩
    · intro template
      simp only [← Pragma.isForeign_iff]
      exact request.inspect_error_iff inTime template state
    · intro value more found
      rw [← Host.behindAll_append, chosen, List.filterMap_append, firstType?_append]
      change ((first).or _).getD _ = value
      rw [found]
      rfl
  · intro engine call data name ended
    rcases exists_calls_of_run engine call data inTime request name with ⟨calls, same, shown⟩
    change (runOf engine call data inTime request name).2.host.chosenContentType = _
    rw [same, chosen, shown]

/-- The page is refused for its second pragma, and what it asked for before stays. -/
theorem firstType_counts_refused :
    let page : Template := ⟨"page", [
      .group .section "s" "#s" .standard
        [.leaf .pragma "content-type:text/plain" "%content-type:text/plain" .standard]
        "/s" .standard,
      .leaf .pragma "require:database,content-type:a/b" "%require:database,content-type:a/b"
        .standard]⟩
    let other : Template := ⟨"other", [
      .leaf .pragma "content-type:c/d" "%content-type:c/d" .standard]⟩
    let host : Host RequestState Unit := (⟨"/page", ""⟩ : Request).host fun _ => true
    firstType? [page] = some "text/plain" ∧
      (∃ error, (host.inspect page .initial).1 = .error error) ∧
      (host.behindAll .initial [.inspect page, .proceed, .inspect other]).chosenContentType =
        "text/plain" := by
  intro page other host
  have first : firstType? [page] = some "text/plain" := by decide +kernel
  have counts := (@firstType_counts Unit ⟨"/page", ""⟩ fun _ => true).1
  have foreign : Pragma.parse "require:database,content-type:a/b".toList ∈ page.pragmaTags := by
    decide +kernel
  refine ⟨first, ?_, (counts [.inspect page]).2.2 "text/plain" [.proceed, .inspect other] first⟩
  exact ((counts []).1 page).mpr ⟨_, foreign, "database", by decide, by decide⟩

end Web

end Mustache
