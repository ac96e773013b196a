import Mathlib.Data.List.Chain
import Mustache.Proofs.Walk.Origin

namespace Mustache

/-! Nothing happens in a rendering behind the back of the host. The host sees every
template before the first node of it is visited, and it is asked at every section
and every inclusion. Most of this is about acts that stand side by side, so a walk
is a chain: each act allows the one behind it. -/

variable {State Lambda : Type}

namespace Walk

/-! ## Acts side by side -/

/-- The walk can go on behind the act without having to turn to host or store. -/
def Act.Passes (store : Store) : Act Lambda → Prop
  | .visited _ task => task.node.consults = false
  | .asked granted => granted = true
  | .loaded path => store.template? path = none
  | .inspected _ verdict => verdict = .ok ()
  | _ => True

/-- The second act can stand right behind the first. -/
def Act.Allows (store : Store) (act : Act Lambda) : Act Lambda → Prop
  | .asked _ => ∃ template task, act = .visited template task ∧ task.node.consults = true
  | .loaded _ => act = .asked true
  | .inspected template _ => ∃ path, act = .loaded path ∧ store.template? path = some template
  | _ => act.Passes store

/-- The act can be the last one of a walk that ends with the result. -/
def Act.Ends (store : Store) (result : Except Error Unit) : Act Lambda → Prop
  | .visited _ task => task.node.consults = false
  | .asked granted => granted = false → result = .error .interrupted
  | .loaded path => store.template? path = none
  | .inspected _ verdict => ∀ error, verdict = .error error → result = .error error
  | _ => True

/-- A step begins with a visit or with leaving a template. -/
def Act.Starts : Act Lambda → Prop
  | .visited _ _ | .left => True
  | _ => False

theorem Act.Passes.allows {store : Store} {act next : Act Lambda} (passes : act.Passes store)
    (starts : next.Starts) : act.Allows store next := by
  cases next with
  | visited | left => exact passes
  | _ => cases starts

theorem Act.Passes.ends {store : Store} {act : Act Lambda} (passes : act.Passes store)
    (result : Except Error Unit) : act.Ends store result := by
  cases act with
  | visited template task => exact passes
  | asked granted =>
      intro refused
      rw [passes] at refused
      cases refused
  | loaded path => exact passes
  | inspected template verdict =>
      intro error denied
      rw [passes] at denied
      cases denied
  | _ => trivial

theorem Act.Allows.asked_of_visited {store : Store} {template : Template} {task : Task Lambda}
    {next : Act Lambda} (allows : (Act.visited template task).Allows store next)
    (consults : task.node.consults = true) : ∃ granted, next = .asked granted := by
  cases next with
  | asked granted => exact ⟨granted, rfl⟩
  | loaded path => cases allows
  | inspected other verdict =>
      rcases allows with ⟨path, impossible, -⟩
      cases impossible
  | _ => exact absurd (consults.symm.trans allows) (by decide)

theorem Act.Allows.inspected_of_loaded {store : Store} {path : Path} {template : Template}
    {next : Act Lambda} (allows : (Act.loaded path : Act Lambda).Allows store next)
    (found : store.template? path = some template) :
    ∃ verdict, next = .inspected template verdict := by
  cases next with
  | asked granted =>
      rcases allows with ⟨other, task, impossible, -⟩
      cases impossible
  | loaded other => cases allows
  | inspected other verdict =>
      rcases allows with ⟨loaded, same, parsed⟩
      cases same
      cases found.symm.trans parsed
      exact ⟨verdict, rfl⟩
  | _ => exact absurd (found.symm.trans allows) (by simp)

theorem not_allows_of_refused {store : Store} {next : Act Lambda} :
    ¬(Act.asked false : Act Lambda).Allows store next := by
  intro allows
  cases next with
  | asked granted =>
      rcases allows with ⟨template, task, impossible, -⟩
      cases impossible
  | inspected template verdict =>
      rcases allows with ⟨path, impossible, -⟩
      cases impossible
  | _ => cases allows

theorem not_allows_of_denied {store : Store} {template : Template} {error : Error}
    {next : Act Lambda} :
    ¬(Act.inspected template (.error error) : Act Lambda).Allows store next := by
  intro allows
  cases next with
  | asked granted =>
      rcases allows with ⟨other, task, impossible, -⟩
      cases impossible
  | inspected other verdict =>
      rcases allows with ⟨path, impossible, -⟩
      cases impossible
  | _ => cases allows

/-! ## Walks as chains -/

/-- The turn that a step takes fits to its last act. -/
def Turn.Closes (store : Store) (turn : Turn State Lambda) (last : Act Lambda) : Prop :=
  match turn with
  | .goOn _ => last.Passes store
  | .stop result _ => last.Ends store result

theorem Act.Passes.closes {store : Store} {act : Act Lambda} (passes : act.Passes store)
    (turn : Turn State Lambda) : turn.Closes store act := by
  cases turn with
  | goOn stage => exact passes
  | stop result host => exact passes.ends result

section Chains

variable {surroundings : Surroundings State Lambda} {encoding : Encoding}

/-- What a task does joins on to the act that let it be performed. -/
theorem Performs.isChain {stage : Stage State Lambda} {task : Task Lambda}
    {acts : List (Act Lambda)} {turn : Turn State Lambda}
    (performs : Performs surroundings encoding stage task acts turn) {first : Act Lambda}
    (passes : first.Passes surroundings.store)
    (granted : task.node.consults = true → first = .asked true) :
    (first :: acts).IsChain (Act.Allows surroundings.store) ∧
      ∀ last ∈ (first :: acts).getLast?, turn.Closes surroundings.store last := by
  cases performs with
  | @writes encode text effect =>
      unfold written
      split
      · simp [passes.closes]
      · have allows : first.Allows surroundings.store
            (.wrote stage.inner.template task.node (encode text)) := passes
        simp [allows, Turn.Closes, Act.Passes]
  | opens effect => simp [passes.closes]
  | tooDeep effect deep => simp [passes.closes]
  | @unresolved path error effect shallow lost =>
      have none := Store.template?_of_unread lost
      simp [Act.Allows, granted (Task.consults_of_includes effect), none, Turn.Closes, Act.Passes]
  | @faulty path text fault effect shallow found parsed =>
      have none : surroundings.store.template? path = none :=
        (Store.template?_of_read found).trans (congrArg Except.toOption parsed)
      simp [Act.Allows, granted (Task.consults_of_includes effect), none, Turn.Closes, Act.Ends]
  | @denied path text template error host effect shallow found parsed verdict =>
      have some := Store.template?_of_parsed found parsed
      simp [Act.Allows, granted (Task.consults_of_includes effect), some, Turn.Closes, Act.Ends]
  | @enters path text template host effect shallow found parsed verdict =>
      have some := Store.template?_of_parsed found parsed
      simp [Act.Allows, granted (Task.consults_of_includes effect), some, Turn.Closes, Act.Passes]

/-- A step is a chain that begins as steps do and is closed by its turn. -/
theorem Steps.isChain {stage : Stage State Lambda} {acts : List (Act Lambda)}
    {turn : Turn State Lambda} (steps : Steps surroundings encoding stage acts turn) :
    acts.IsChain (Act.Allows surroundings.store) ∧
      (∀ first ∈ acts.head?, first.Starts) ∧
      ∀ last ∈ acts.getLast?, turn.Closes surroundings.store last := by
  cases steps with
  | done => simp
  | leave => simp [Act.Starts, Turn.Closes, Act.Passes]
  | @quiet template task rest outer host acts turn silent performs =>
      have passes : (Act.visited template task).Passes surroundings.store := silent
      rcases performs.isChain passes (by simp [silent]) with ⟨chain, closes⟩
      exact ⟨chain, by simp [Act.Starts], closes⟩
  | refused consults answer =>
      simp [Act.Allows, Act.Starts, Turn.Closes, Act.Ends, consults]
  | @granted template task rest outer host after acts turn consults answer performs =>
      have passes : (Act.asked true : Act Lambda).Passes surroundings.store := rfl
      rcases performs.isChain passes (fun _ => rfl) with ⟨chain, closes⟩
      refine ⟨?_, by simp [Act.Starts], by simpa using closes⟩
      rw [List.isChain_cons_cons]
      exact ⟨⟨template, task, rfl, consults⟩, chain⟩

/-- The act that closes a step stands well before the rest of the walk. -/
theorem Turn.Closes.joins {turn : Turn State Lambda} {last : Act Lambda}
    (closes : turn.Closes surroundings.store last) {later : List (Act Lambda)}
    {result : Except Error Unit} {host : State}
    (runs : Runs surroundings encoding turn later result host) :
    last.Ends surroundings.store result ∧
      ∀ first ∈ later.head?, first.Starts → last.Allows surroundings.store first := by
  cases runs with
  | stop => exact ⟨closes, by simp⟩
  | goOn steps runs => exact ⟨closes.ends result, fun first _ starts => closes.allows starts⟩

theorem Runs.isChain {turn : Turn State Lambda} {acts : List (Act Lambda)}
    {result : Except Error Unit} {host : State}
    (runs : Runs surroundings encoding turn acts result host) :
    acts.IsChain (Act.Allows surroundings.store) ∧
      (∀ first ∈ acts.head?, first.Starts) ∧
      ∀ last ∈ acts.getLast?, last.Ends surroundings.store result := by
  induction runs with
  | stop => simp
  | @goOn stage acts later turn result host steps runs induction =>
      rcases steps.isChain with ⟨chain, starts, closes⟩
      rcases induction with ⟨laterChain, laterStarts, laterEnds⟩
      -- Two steps join where the first one closes and the other one starts.
      refine ⟨List.isChain_append.mpr ⟨chain, laterChain, ?_⟩, ?_, ?_⟩
      · intro last lastOf first firstOf
        exact ((closes last lastOf).joins runs).2 first firstOf (laterStarts first firstOf)
      · intro first firstOf
        rw [List.head?_append, Option.mem_def, Option.or_eq_some_iff] at firstOf
        rcases firstOf with inActs | ⟨-, inLater⟩
        · exact starts first inActs
        · exact laterStarts first inLater
      · intro last lastOf
        rw [List.getLast?_append, Option.mem_def, Option.or_eq_some_iff] at lastOf
        rcases lastOf with inLater | ⟨-, inActs⟩
        · exact laterEnds last inLater
        · exact ((closes last inActs).joins runs).1

end Chains

/-- In a chain that ends well, an act fits to the one before it and to the one behind
it, if there are such. -/
theorem neighbours_of_isChain {store : Store} {result : Except Error Unit}
    {acts : List (Act Lambda)} (chain : acts.IsChain (Act.Allows store))
    (ends : ∀ last ∈ acts.getLast?, last.Ends store result) {before behind : List (Act Lambda)}
    {act : Act Lambda} (shape : acts = before ++ act :: behind) :
    (before = [] ∨
        ∃ earlier previous, before = earlier ++ [previous] ∧ previous.Allows store act) ∧
      (behind = [] ∧ act.Ends store result ∨
        ∃ next rest, behind = next :: rest ∧ act.Allows store next) := by
  subst shape
  constructor
  · rcases before.eq_nil_or_concat' with rfl | ⟨earlier, previous, rfl⟩
    · exact .inl rfl
    · rw [List.append_assoc, List.singleton_append, List.isChain_append_cons_cons] at chain
      exact .inr ⟨earlier, previous, rfl, chain.2.1⟩
  · cases behind with
    | nil => exact .inl ⟨rfl, ends act (by simp)⟩
    | cons next rest =>
        rw [List.isChain_append_cons_cons] at chain
        exact .inr ⟨next, rest, rfl, chain.2.1⟩

/-! ## Mediated walks -/

/-- Host and store are turned to where they have to be, and only there. -/
structure Mediated (store : Store) (root : Template) (acts : List (Act Lambda))
    (result : Except Error Unit) : Prop where
  root_first : ∃ verdict behind, acts = .inspected root verdict :: behind
  /-- At a section or an inclusion the host is asked before anything else happens. -/
  asked_of_visited : ∀ before template task behind,
    acts = before ++ .visited template task :: behind → task.node.consults = true →
      ∃ granted rest, behind = .asked granted :: rest
  visited_of_asked : ∀ before granted behind, acts = before ++ .asked granted :: behind →
    ∃ earlier template task, before = earlier ++ [.visited template task] ∧
      task.node.consults = true
  granted_of_loaded : ∀ before path behind, acts = before ++ .loaded path :: behind →
    ∃ earlier, before = earlier ++ [.asked true]
  inspected_of_loaded : ∀ before path template behind,
    acts = before ++ .loaded path :: behind → store.template? path = some template →
      ∃ verdict rest, behind = .inspected template verdict :: rest
  /-- Only the root is inspected without having been loaded right before. -/
  loaded_of_inspected : ∀ before template verdict behind,
    acts = before ++ .inspected template verdict :: behind →
      before = [] ∧ template = root ∨
        ∃ earlier path, before = earlier ++ [.loaded path] ∧ store.template? path = some template
  last_of_refused : ∀ before behind, acts = before ++ .asked false :: behind →
    behind = [] ∧ result = .error .interrupted
  last_of_denied : ∀ before template error behind,
    acts = before ++ .inspected template (.error error) :: behind →
      behind = [] ∧ result = .error error
  accepted_of_visited : ∀ before template task behind,
    acts = before ++ .visited template task :: behind →
      .inspected template (.ok ()) ∈ before ∧ template.Holds task.node
  accepted_of_wrote : ∀ before template node fragment behind,
    acts = before ++ .wrote template node fragment :: behind →
      .inspected template (.ok ()) ∈ before ∧ template.Holds node

end Walk

open Walk

section Walked

variable {surroundings : Surroundings State Lambda} {encoding : Encoding} {template : Template}
  {scopes : Scopes Lambda} {state host : State} {acts : List (Act Lambda)}
  {result : Except Error Unit}

theorem Template.Walked.isChain
    (walked : template.Walked surroundings encoding scopes state acts result host) :
    acts.IsChain (Act.Allows surroundings.store) ∧
      ∀ last ∈ acts.getLast?, last.Ends surroundings.store result := by
  cases walked with
  | denied verdict => simp [Act.Ends]
  | @entered acts result start host verdict runs =>
      have passes : (.inspected template (.ok ()) : Act Lambda).Passes surroundings.store := rfl
      rcases runs.isChain with ⟨chain, starts, ends⟩
      refine ⟨List.isChain_cons.mpr ⟨fun first firstOf => passes.allows (starts first firstOf),
        chain⟩, ?_⟩
      intro last lastOf
      cases acts with
      | nil =>
          cases lastOf
          exact passes.ends result
      | cons act acts =>
          rw [List.getLast?_cons_cons] at lastOf
          exact ends last lastOf

theorem Template.Walked.root_first
    (walked : template.Walked surroundings encoding scopes state acts result host) :
    ∃ verdict behind, acts = .inspected template verdict :: behind := by
  cases walked with
  | denied verdict => exact ⟨_, [], rfl⟩
  | entered verdict runs => exact ⟨_, _, rfl⟩

theorem Template.Walked.mediated
    (walked : template.Walked surroundings encoding scopes state acts result host) :
    Mediated surroundings.store template acts result := by
  rcases walked.root_first with ⟨first, others, headed⟩
  rcases walked.isChain with ⟨chain, ends⟩
  have sourced := walked.sourced (kept_holds surroundings encoding)
    fun inner member => Template.holds_of_mem (mem_tasksIn member).1
  refine ⟨⟨first, others, headed⟩, ?_, ?_, ?_, ?_, ?_, ?_, ?_, ?_, ?_⟩
  · intro before source task behind shape consults
    rcases (neighbours_of_isChain chain ends shape).2 with ⟨-, ends⟩ | ⟨next, rest, rfl, allows⟩
    · exact absurd (consults.symm.trans ends) (by decide)
    · rcases allows.asked_of_visited consults with ⟨granted, rfl⟩
      exact ⟨granted, rest, rfl⟩
  · intro before granted behind shape
    rcases (neighbours_of_isChain chain ends shape).1 with rfl | ⟨earlier, previous, rfl, allows⟩
    · cases headed.symm.trans shape
    · rcases allows with ⟨source, task, rfl, consults⟩
      exact ⟨earlier, source, task, rfl, consults⟩
  · intro before path behind shape
    rcases (neighbours_of_isChain chain ends shape).1 with rfl | ⟨earlier, previous, rfl, allows⟩
    · cases headed.symm.trans shape
    · rcases allows with rfl
      exact ⟨earlier, rfl⟩
  · intro before path included behind shape found
    rcases (neighbours_of_isChain chain ends shape).2 with ⟨-, ends⟩ | ⟨next, rest, rfl, allows⟩
    · cases found.symm.trans ends
    · rcases allows.inspected_of_loaded found with ⟨verdict, rfl⟩
      exact ⟨verdict, rest, rfl⟩
  · intro before source verdict behind shape
    rcases (neighbours_of_isChain chain ends shape).1 with rfl | ⟨earlier, previous, rfl, allows⟩
    · cases headed.symm.trans shape
      exact .inl ⟨rfl, rfl⟩
    · rcases allows with ⟨path, rfl, found⟩
      exact .inr ⟨earlier, path, rfl, found⟩
  · intro before behind shape
    rcases (neighbours_of_isChain chain ends shape).2 with ⟨rfl, ends⟩ | ⟨next, rest, rfl, allows⟩
    · exact ⟨rfl, ends rfl⟩
    · exact absurd allows not_allows_of_refused
  · intro before source error behind shape
    rcases (neighbours_of_isChain chain ends shape).2 with ⟨rfl, ends⟩ | ⟨next, rest, rfl, allows⟩
    · exact ⟨rfl, ends error rfl⟩
    · exact absurd allows not_allows_of_denied
  · intro before source task behind shape
    exact sourced before (.visited source task) behind shape
  · intro before source node fragment behind shape
    rcases sourced before (.wrote source node fragment) behind shape with
      ⟨accepted, task, encode, text, holds, same, -, -⟩
    exact ⟨accepted, same ▸ holds⟩

end Walked

/-- Nothing happens in a rendering behind the back of the host. -/
theorem Template.render_mediated (surroundings : Surroundings State Lambda) (template : Template)
    (scopes : Scopes Lambda) (progress : Progress State) :
    ∃ acts result host,
      template.render surroundings scopes progress =
          Rendering.ended result (progress.after acts (fragments acts) host) ∧
        template.Walked surroundings progress.output.encoding scopes progress.host acts result
          host ∧
        Mediated surroundings.store template acts result ∧
        ∀ fragment ∈ fragments acts, ∃ before source node behind,
          acts = before ++ .wrote source node fragment :: behind ∧ source.Holds node ∧
            .inspected source (.ok ()) ∈ before := by
  rcases template.walked_render surroundings scopes progress with
    ⟨acts, result, host, walked, renders⟩
  refine ⟨acts, result, host, renders, walked, walked.mediated, ?_⟩
  intro fragment member
  rcases wrote_of_mem_fragments member with ⟨source, node, wrote⟩
  rcases List.append_of_mem wrote with ⟨before, behind, shape⟩
  rcases walked.mediated.accepted_of_wrote before source node fragment behind shape with
    ⟨accepted, holds⟩
  exact ⟨before, source, node, behind, shape, holds, accepted⟩

end Mustache
