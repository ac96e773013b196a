import Mustache.Proofs.Engine
import Mustache.Proofs.Failure
import Mustache.Proofs.Location
import Mustache.Proofs.Path.Ending
import Mustache.Proofs.Web.Confinement

namespace Mustache

/-! Files that a rendering comes to. The root has the file of its name, and each tag goes
on from the file it stands in, so what every such step keeps holds of all of them. -/

open Walk

variable {State Lambda : Type}

/-! ## Names of files -/

section Names

variable {name extension : String} {front last : List Char}

theorem Web.ProperName.last_ne_nil (proper : ProperName name)
    (ends : Path.Ends ⟨name⟩ front last) : last ≠ [] := by
  rintro rfl
  have text : name.toList = front := by simpa using ends.text
  rcases ends.starts with rfl | ⟨before, rfl⟩
  · exact proper.nonempty (String.toList_inj.mp text)
  · exact proper.last (by simp [text])

/-- An extension behind a name does not change where the name leads. -/
theorem Web.ProperName.extended (proper : ProperName name) (some : extension ≠ "")
    (undivided : '/' ∉ extension.toList) :
    Path.Descends ⟨name ++ "." ++ extension⟩ ∧
      Path.Carries ⟨name ++ "." ++ extension⟩ extension := by
  rcases Path.exists_ends ⟨name⟩ with ⟨front, last, ends⟩
  have named := proper.last_ne_nil ends
  have text : (name ++ "." ++ extension).toList = front ++ (last ++ '.' :: extension.toList) := by
    have shape : name.toList = front ++ last := ends.text
    simp [shape]
  have whole : '/' ∉ last ++ '.' :: extension.toList := by simp [ends.undivided, undivided]
  rcases Path.means_append named (by simpa using some : extension.toList ≠ []) with ⟨-, notAbove⟩
  exact ⟨proper.descends.replace ends.text ends.starts text whole notAbove,
    front, last, named, text, ends.starts, whole⟩

theorem Path.ofInclusion_carries {file : Option Path}
    (descends : ∀ path, file = some path → path.Descends) (proper : Web.ProperName name)
    (some : extension ≠ "") (undivided : '/' ∉ extension.toList) :
    (ofInclusion file name extension).Descends ∧
      (ofInclusion file name extension).Carries extension := by
  have directory : ((file.bind Path.parent?).getD ⟨""⟩).Descends := by
    cases parent : file.bind Path.parent? with
    | none => exact .empty
    | some directory =>
        rcases Option.bind_eq_some_iff.mp parent with ⟨path, same, found⟩
        exact (descends path same).parent? found
  rcases proper.extended some undivided with ⟨further, carries⟩
  unfold ofInclusion
  rw [if_neg (by simpa using some)]
  exact ⟨directory.join further, carries.join _⟩

theorem Settings.templateFile_carries (settings : Settings) (proper : Web.ProperName name)
    (ends : Path.Ends ⟨name⟩ front last) (undotted : '.' ∉ last)
    (some : settings.extension ≠ "") (undivided : '/' ∉ settings.extension.toList) :
    (settings.templateFile name).Descends ∧
      (settings.templateFile name).Carries settings.extension := by
  refine ⟨settings.descends_templateFile proper.descends undivided, ?_⟩
  rcases ends.carries_withExtension (proper.last_ne_nil ends) undotted some undivided with
    ⟨plain, carries⟩
  simpa [templateFile, plain, some] using carries

end Names

namespace Walk

/-- A tag that includes this name is visited. -/
def Cites (acts : List (Act Lambda)) (name : String) : Prop :=
  ∃ template scopes body markers,
    .visited template ⟨scopes, .leaf .inclusion name body markers⟩ ∈ acts

/-- All files that the trail tells have been loaded, or the root belongs to them. -/
theorem trail_holds {holds : Path → Prop} {root : Opening}
    (rooted : ∀ file, root.file = some file → holds file) {acts : List (Act Lambda)}
    (loads : ∀ path, .loaded path ∈ acts → holds path) :
    (∀ file, (trail root acts).loaded = some file → holds file) ∧
      ∀ opening ∈ (trail root acts).openings, ∀ file, opening.file = some file → holds file := by
  induction acts using List.reverseRecOn with
  | nil => exact ⟨nofun, List.forall_mem_singleton.mpr rooted⟩
  | append_singleton before act induction =>
      rcases induction fun path member => loads path (List.mem_append_left _ member) with
        ⟨last, openings⟩
      rw [trail_append, List.foldl_cons, List.foldl_nil]
      cases act with
      | loaded path =>
          refine ⟨?_, openings⟩
          rintro _ ⟨⟩
          exact loads path (List.mem_append_right _ List.mem_cons_self)
      | entered template => exact ⟨last, List.forall_mem_cons.mpr ⟨last, openings⟩⟩
      | left => exact ⟨last, fun opening member => openings opening (List.mem_of_mem_tail member)⟩
      | _ => exact ⟨last, openings⟩

end Walk

/-- What holds of the file of the root, and of each file that a tag comes to from one of
which it holds, does so for all files that are loaded. -/
theorem Template.Walked.holds_of_loaded {surroundings : Surroundings State Lambda}
    {encoding : Encoding} {template : Template} {scopes : Scopes Lambda} {state host : State}
    {acts : List (Act Lambda)} {result : Except Error Unit} {name source : String}
    {holds : Path → Prop} (parsed : parse name source = .ok template)
    (walked : template.Walked surroundings encoding scopes state acts result host)
    (rooted : ∀ file, (Opening.ofRoot template scopes).file = some file → holds file)
    (kept : ∀ (file : Option Path) (name : String), (∀ path, file = some path → holds path) →
      Cites acts name → holds (.ofInclusion file name surroundings.extension)) :
    ∀ path, .loaded path ∈ acts → holds path := by
  have located := walked.located parsed
  have prefixes : ∀ before behind, acts = before ++ behind → ∀ path, .loaded path ∈ before →
      holds path := by
    intro before
    -- A file is told by the tag before it, and that by the files loaded before the tag.
    induction before using List.reverseRecOn with
    | nil => nofun
    | append_singleton before act induction =>
        intro behind shape path member
        rw [List.append_assoc, List.singleton_append] at shape
        have earlier := induction (act :: behind) shape
        rcases List.mem_append.mp member with before | last
        · exact earlier path before
        · cases List.mem_singleton.mp last
          rcases located.of_loaded before path behind shape with
            ⟨past, holder, file, outer, inner, named, body, markers, rfl, opened, same⟩
          have cites : Cites acts named := ⟨holder, inner, body, markers, by simp [shape]⟩
          have files := (trail_holds rooted fun path member =>
            earlier path (List.mem_append_left _ member)).2
          rw [opened] at files
          have holds := kept file named (files _ List.mem_cons_self) cites
          simpa [Path.ofInclusion, ← same] using holds
  intro path member
  exact prefixes acts [] (by simp) path member

/-! ## Faults on the way -/

/-- A rendering by this name visits a tag that includes the other name. -/
def Engine.Cites (engine : Engine) (call : Lambda → String → Scopes Lambda → String)
    (name : String) (data : Bindings Lambda) (included : String) : Prop :=
  let file := engine.settings.templateFile name
  ∃ (template : Template) (acts : List (Act Lambda)) (result : Except Error Unit),
    engine.store.template? file = some template ∧
    template.Walked (engine.surroundings .permissive call) engine.encoding
      (((Scopes.root data).atFile file).extend []) () acts result () ∧
    Walk.Cites acts included

section Parses

variable {engine : Engine} {call : Lambda → String → Scopes Lambda → String} {name : String}
  {data : Bindings Lambda} (some : engine.settings.extension ≠ "")
  (undivided : '/' ∉ engine.settings.extension.toList)
  (parses : ∀ path : Path, path.Descends → path.Carries engine.settings.extension →
    ∀ text, engine.store.readText path = .ok text →
      ∀ fault, Template.parse path.text text ≠ .error fault)

include some undivided parses

/-- A walk ends with a fault of a file that it loads, and all of these go down to a file
with the extension. -/
theorem Engine.walked_ne_fault {template : Template} {file : Path} {source text : String}
    {encoding : Encoding} {acts : List (Act Lambda)} {result : Except Error Unit} {host : Unit}
    (parsed : Template.parse source text = .ok template)
    (holds : file.Descends ∧ file.Carries engine.settings.extension)
    (walked : template.Walked (engine.surroundings .permissive call) encoding
      (((Scopes.root data).atFile file).extend []) () acts result host)
    (further : ∀ included, Walk.Cites acts included → Web.ProperName included) (fault : Fault) :
    result ≠ .error (.fault fault) := by
  rintro rfl
  have loads : ∀ path, .loaded path ∈ acts →
      path.Descends ∧ path.Carries engine.settings.extension := by
    refine walked.holds_of_loaded parsed ?_ ?_
    · intro path same
      have member := List.mem_of_find?_eq_some same
      have only : path = file := by
        simpa [Scopes.all, Scopes.root, Scopes.atFile, Scopes.extend] using member
      exact only ▸ holds
    · intro file name before cites
      exact Path.ofInclusion_carries (fun path same => (before path same).1) (further name cites)
        some undivided
  cases walked.failure with
  | denied origin verdict => cases verdict
  | @faulty before path text fault found parsed named =>
      rcases loads path (by simp) with ⟨descends, carries⟩
      exact parses path descends carries text found fault parsed

/-- Where no file that can be come to has a fault, no rendering ends with one. -/
theorem Engine.renderPath_ne_fault {front last : List Char} (proper : Web.ProperName name)
    (ends : Path.Ends ⟨name⟩ front last) (undotted : '.' ∉ last)
    (further : ∀ included, engine.Cites call name data included → Web.ProperName included)
    (fault : Fault) :
    (engine.run (engine.renderPath .permissive call name data) ()).1 ≠ .error (.fault fault) := by
  have holds := engine.settings.templateFile_carries proper ends undotted some undivided
  have rendered : engine.renderPath .permissive call name data ⟨.empty engine.encoding, (), #[]⟩ =
      _ := engine.renderPath_eq rfl data
  cases read : engine.store.readText (engine.settings.templateFile name) with
  | error error =>
      simp only [read] at rendered
      change _ = Rendering.ended (.error (.load error)) _ at rendered
      rw [run_of_ended rendered]
      nofun
  | ok text =>
      simp only [read] at rendered
      cases parsed : Template.parse (engine.settings.templateFile name).text text with
      | error found => exact absurd parsed (parses _ holds.1 holds.2 text read found)
      | ok template =>
          simp only [parsed] at rendered
          rw [renderIn_eq] at rendered
          rcases template.walked_render (engine.surroundings .permissive call)
              (((Scopes.root data).atFile (engine.settings.templateFile name)).extend [])
              (valued ((Scopes.root data).atFile (engine.settings.templateFile name))
                (loading (engine.settings.templateFile name) ⟨.empty engine.encoding, (), #[]⟩) ())
            with ⟨acts, result, host, walked, renders⟩
          have passes := walked_ne_fault some undivided parses parsed holds walked
            (fun included cites => further included
              ⟨template, acts, result, Store.template?_of_parsed read parsed, walked, cites⟩)
            fault
          rw [run_of_ended (rendered.trans renders)]
          cases result with
          | ok ended => nofun
          | error error =>
              intro failed
              cases failed
              exact passes rfl

end Parses

end Mustache
