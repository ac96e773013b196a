import Mustache.Proofs.Engine
import Mustache.Proofs.Location
import Mustache.Proofs.Path.Ending

namespace Mustache

/-! Two names of one file. A tag names a template from the directory of the file that it
stands in, and an engine takes its names from the top of the store. The first way takes
a path apart and joins it with another one, the second puts an extension in its place. -/

/-! ## Paths in segments -/

namespace Path

/-- A part between slashes that goes down by one name. -/
structure Ordinary (segment : String) : Prop where
  nonempty : segment ≠ ""
  notHere : segment ≠ "."
  notAbove : segment ≠ ".."
  undivided : '/' ∉ segment.toList

/-- The name of a file without any extension. -/
structure Bare (segment : String) : Prop where
  nonempty : segment ≠ ""
  undotted : '.' ∉ segment.toList
  undivided : '/' ∉ segment.toList

def through (segments : List String) : String :=
  "/".intercalate segments

theorem through_append {first second : List String} (some : first ≠ []) (more : second ≠ []) :
    through (first ++ second) = through first ++ "/" ++ through second :=
  String.intercalate_append_of_ne_nil some more

theorem toList_through (segments : List String) :
    (through segments).toList = Text.joinPieces '/' (segments.map String.toList) := by
  induction segments with
  | nil => rfl
  | cons first rest induction =>
      cases rest with
      | nil => simp [through, Text.joinPieces]
      | cons second others =>
          rw [through, String.intercalate_cons_cons, String.toList_append, String.toList_append,
            ← through, induction]
          simp [Text.joinPieces]

theorem Ordinary.loud {segment : String} (ordinary : Ordinary segment) :
    isSilent segment.toList = false := by
  have notHere : segment.toList ≠ ['.'] := fun same =>
    ordinary.notHere (String.toList_inj.mp same)
  simp [isSilent, ordinary.nonempty, notHere]

theorem Bare.ordinary {name : String} (bare : Bare name) : Ordinary name where
  nonempty := bare.nonempty
  notHere := by
    rintro rfl
    exact bare.undotted (by simp)
  notAbove := by
    rintro rfl
    exact bare.undotted (by simp)
  undivided := bare.undivided

theorem pieces_through {segments : List String}
    (ordinary : ∀ segment ∈ segments, Ordinary segment) (some : segments ≠ []) :
    Text.pieces '/' (through segments).toList = segments.map String.toList := by
  rw [toList_through, Text.pieces_joinPieces (by simpa using some)]
  simpa using fun segment member => (ordinary segment member).undivided

theorem dropWhile_isSilent {parts : List (List Char)}
    (loud : ∀ part ∈ parts, isSilent part = false) : parts.dropWhile isSilent = parts := by
  cases parts with
  | nil => rfl
  | cons first rest => exact List.dropWhile_cons_of_neg (by simp [loud first List.mem_cons_self])

section Segments

variable {segments : List String}

theorem loud_reverse (ordinary : ∀ segment ∈ segments, Ordinary segment) :
    ∀ part ∈ (segments.map String.toList).reverse, isSilent part = false := by
  intro part member
  rcases List.mem_map.mp (List.mem_reverse.mp member) with ⟨segment, listed, rfl⟩
  exact (ordinary segment listed).loud

theorem backwards_through (ordinary : ∀ segment ∈ segments, Ordinary segment) :
    backwards ⟨through segments⟩ = ([], (segments.map String.toList).reverse) := by
  by_cases none : segments = []
  · subst none
    rfl
  · have parts := pieces_through ordinary none
    have loud := loud_reverse ordinary
    rw [backwards_eq, lead_of_pieces (by simpa [parts] using loud), parts, dropWhile_isSilent loud]

theorem ofBackwards_through (segments : List String) :
    ofBackwards [] (segments.map String.toList).reverse = ⟨through segments⟩ := by
  rw [ofBackwards, List.reverse_reverse, List.nil_append, ← toList_through, String.ofList_toList]

variable {last : String}

theorem backwards_through_append (ordinary : ∀ segment ∈ segments, Ordinary segment)
    (named : Ordinary last) :
    backwards ⟨through (segments ++ [last])⟩ =
      ([], last.toList :: (segments.map String.toList).reverse) := by
  rw [backwards_through (by simpa [or_imp, forall_and] using ⟨ordinary, named⟩)]
  simp

theorem parent?_through (ordinary : ∀ segment ∈ segments, Ordinary segment)
    (named : Ordinary last) :
    parent? ⟨through (segments ++ [last])⟩ = some ⟨through segments⟩ := by
  simp only [parent?, backwards_through_append ordinary named,
    dropWhile_isSilent (loud_reverse ordinary), ofBackwards_through]

theorem fileName?_through (ordinary : ∀ segment ∈ segments, Ordinary segment)
    (named : Ordinary last) :
    fileName? ⟨through (segments ++ [last])⟩ = some last.toList := by
  have notAbove : last.toList ≠ ['.', '.'] := fun same =>
    named.notAbove (String.toList_inj.mp same)
  simp [fileName?, backwards_through_append ordinary named, notAbove]

end Segments

/-! ## Extensions -/

/-- A name with an extension behind it; the empty one adds nothing. -/
def extended (name extension : String) : String :=
  if extension.isEmpty then name else name ++ "." ++ extension

theorem Bare.ordinary_extended {name extension : String} (bare : Bare name)
    (undivided : '/' ∉ extension.toList) : Ordinary (extended name extension) := by
  unfold extended
  split
  · exact bare.ordinary
  · -- The first character is one of the name, and so it is no dot.
    rcases List.exists_cons_of_ne_nil (by simpa using bare.nonempty : name.toList ≠ []) with
      ⟨first, others, shape⟩
    have undotted := bare.undotted
    rw [shape, List.mem_cons, not_or] at undotted
    constructor
    · simp
    · intro same
      have shapes := congrArg String.toList same
      simp [shape] at shapes
    · intro same
      have shapes := congrArg String.toList same
      simp [shape, Ne.symm undotted.1] at shapes
    · simp [bare.undivided, undivided]

theorem through_extended (directory : List String) (last extension : String) :
    through (directory ++ [extended last extension]) =
      extended (through (directory ++ [last])) extension := by
  unfold extended
  split
  · rfl
  · cases directory with
    | nil => simp [through]
    | cons first others =>
        rw [through_append (by simp) (by simp), through_append (by simp) (by simp)]
        simp [through, String.append_assoc]

end Path

/-- A name that has no extension gets the one of the settings. -/
theorem Settings.templateFile_through (settings : Settings) {directory : List String}
    (ordinary : ∀ segment ∈ directory, Path.Ordinary segment) {name : String}
    (bare : Path.Bare name) :
    settings.templateFile (Path.through (directory ++ [name])) =
      ⟨Path.through (directory ++ [Path.extended name settings.extension])⟩ := by
  have named := Path.fileName?_through ordinary bare.ordinary
  have plain : Path.extension? ⟨Path.through (directory ++ [name])⟩ = none := by
    simp [Path.extension?, named, Path.divideName_of_not_mem bare.undotted]
  by_cases empty : settings.extension = ""
  · simp [templateFile, plain, empty, Path.extended]
  · have extended : (name ++ "." ++ settings.extension).toList =
        name.toList ++ '.' :: settings.extension.toList := by simp
    simp only [templateFile, plain, Option.isSome_none, Bool.false_or, String.isEmpty_iff, empty,
      if_false, Path.withExtension, named, Path.backwards_through_append ordinary bare.ordinary,
      Path.divideName_of_not_mem bare.undotted, Path.extended]
    rw [← Path.ofBackwards_through, List.map_append, List.reverse_append, ← extended]
    rfl

namespace Path

section Ends

variable {segments : List String} (ordinary : ∀ segment ∈ segments, Ordinary segment)
  (some : segments ≠ [])

include ordinary some

theorem nil_not_mem_pieces_through : [] ∉ Text.pieces '/' (through segments).toList := by
  rw [pieces_through ordinary some]
  intro member
  have loud := loud_reverse ordinary [] (List.mem_reverse.mpr member)
  cases loud

theorem through_ne_empty : through segments ≠ "" := by
  intro empty
  apply nil_not_mem_pieces_through ordinary some
  simp [empty, Text.pieces]

theorem not_isAbsolute_through : isAbsolute ⟨through segments⟩ = false := by
  by_contra absolute
  have first : (through segments).toList.head? = Option.some '/' := by
    simpa [isAbsolute] using absolute
  rcases List.head?_eq_some_iff.mp first with ⟨behind, shape⟩
  apply nil_not_mem_pieces_through ordinary some
  simp [shape, Text.pieces]

theorem getLast?_through : (through segments).toList.getLast? ≠ Option.some '/' := by
  intro last
  rcases List.getLast?_eq_some_iff.mp last with ⟨before, shape⟩
  apply nil_not_mem_pieces_through ordinary some
  simp [shape, Text.pieces_append, Text.pieces]

end Ends

theorem join_through {directory rest : List String}
    (outside : ∀ segment ∈ directory, Ordinary segment)
    (inside : ∀ segment ∈ rest, Ordinary segment) (some : rest ≠ []) :
    join ⟨through directory⟩ (through rest) = ⟨through (directory ++ rest)⟩ := by
  rw [join, if_neg (by simp [not_isAbsolute_through inside some])]
  by_cases top : directory = []
  · subst top
    simp [through]
  · have nonempty := through_ne_empty outside top
    rw [if_neg (by simpa [nonempty] using getLast?_through outside top), through_append top some]

theorem ofInclusion_through {directory inner : List String} {root name extension : String}
    (outside : ∀ segment ∈ directory, Ordinary segment) (named : Ordinary root)
    (inside : ∀ segment ∈ inner, Ordinary segment) (bare : Bare name)
    (undivided : '/' ∉ extension.toList) :
    ofInclusion (some ⟨through (directory ++ [root])⟩) (through (inner ++ [name])) extension =
      ⟨through (directory ++ inner ++ [extended name extension])⟩ := by
  have extending := bare.ordinary_extended undivided
  have all : ∀ segment ∈ inner ++ [extended name extension], Ordinary segment := by
    simpa [or_imp, forall_and] using ⟨inside, extending⟩
  rw [ofInclusion, Option.bind_some, parent?_through outside named, Option.getD_some,
    ← extended, ← through_extended, join_through outside all (by simp), List.append_assoc]

end Path

open Walk

variable {State Lambda : Type}

section Named

variable {directory inner : List String} {root name : String}
  (outside : ∀ segment ∈ directory, Path.Ordinary segment)
  (inside : ∀ segment ∈ inner, Path.Ordinary segment) (rooted : Path.Bare root)
  (named : Path.Bare name)

include outside inside rooted named

/-- The name from the directory of a file and the name from the top are those of one file. -/
theorem Settings.ofInclusion_templateFile (settings : Settings)
    (undivided : '/' ∉ settings.extension.toList) :
    Path.ofInclusion (some (settings.templateFile (Path.through (directory ++ [root]))))
        (Path.through (inner ++ [name])) settings.extension =
      settings.templateFile (Path.through (directory ++ inner ++ [name])) := by
  have all : ∀ segment ∈ directory ++ inner, Path.Ordinary segment := by
    simpa [or_imp, forall_and] using ⟨outside, inside⟩
  rw [settings.templateFile_through outside rooted, settings.templateFile_through all named,
    Path.ofInclusion_through outside (rooted.ordinary_extended undivided) inside named undivided]

end Named

/-- A root that is rendered by its path stands in the file of that path. -/
theorem Walk.Opening.ofRoot_atFile (template : Template) (data values : Bindings Lambda)
    {file : Path} (named : file.text ≠ "") :
    Opening.ofRoot template (((Scopes.root data).atFile file).extend values) =
      ⟨template, some file⟩ := by
  simp [Opening.ofRoot, Scopes.all, Scopes.root, Scopes.atFile, Scopes.extend, named]

/-- Whether the file can be had or not, it is asked for first. -/
theorem Engine.exists_load_eq (engine : Engine) (name : String) (progress : Progress State) :
    ∃ outcome : Except Error Template, engine.load name progress =
      match outcome with
      | .error error => .error error (loading (engine.settings.templateFile name) progress)
      | .ok template => .ok (engine.settings.templateFile name, template)
          (loading (engine.settings.templateFile name) progress) := by
  rw [engine.load_eq rfl]
  cases engine.store.readText (engine.settings.templateFile name) with
  | error error => exact ⟨.error (.load error), rfl⟩
  | ok text =>
      dsimp only
      cases Template.parse (engine.settings.templateFile name).text text with
      | error fault => exact ⟨.error (.fault fault), rfl⟩
      | ok template => exact ⟨.ok template, rfl⟩

/-- For directories and names with ordinary parts, a tag in a template and the whole name
given to the engine mean the same file. Wherever a tag stands in the template of a file,
and the root that is rendered by its name is one, a rendering asks the store for that file. -/
theorem Engine.neighbour_file (engine : Engine) {directory inner : List String}
    {root name : String} (outside : ∀ segment ∈ directory, Path.Ordinary segment)
    (inside : ∀ segment ∈ inner, Path.Ordinary segment) (rooted : Path.Bare root)
    (named : Path.Bare name) (undivided : '/' ∉ engine.settings.extension.toList) :
    let file := engine.settings.templateFile (Path.through (directory ++ [root]))
    let tag := Path.through (inner ++ [name])
    let whole := Path.through (directory ++ inner ++ [name])
    let target := engine.settings.templateFile whole
    Path.ofInclusion (some file) tag engine.settings.extension = target ∧
    (∀ (template : Template) (data values : Bindings Lambda),
      Opening.ofRoot template (((Scopes.root data).atFile file).extend values) =
        ⟨template, some file⟩) ∧
    (∀ progress : Progress State, ∃ outcome : Except Error Template,
      engine.load whole progress =
        match outcome with
        | .error error => .error error (loading target progress)
        | .ok template => .ok (target, template) (loading target progress)) ∧
    ∀ (host : Host State Lambda) (call : Lambda → String → Scopes Lambda → String)
      (template : Template) (scopes : Scopes Lambda) (progress : Progress State),
      (∃ path source, Template.parse path source = .ok template) →
      ∃ acts result final,
        template.render (engine.surroundings host call) scopes progress =
            Rendering.ended result (progress.after acts (fragments acts) final) ∧
          template.Walked (engine.surroundings host call) progress.output.encoding scopes
            progress.host acts result final ∧
          ∀ before holder task body markers behind outer,
            acts = before ++ .visited holder task :: .asked true :: behind →
            task.node = .leaf .inclusion tag body markers →
            (trail (.ofRoot template scopes) before).openings = ⟨holder, some file⟩ :: outer →
            (∃ later, behind = .loaded target :: later) ∨
              behind = [] ∧ result = .error (.tooDeep engine.settings.depthLimit target) := by
  intro file tag whole target
  have same : Path.ofInclusion (some file) tag engine.settings.extension = target :=
    engine.settings.ofInclusion_templateFile outside inside rooted named undivided
  refine ⟨same, ?_, engine.exists_load_eq whole, ?_⟩
  · intro template data values
    apply Opening.ofRoot_atFile
    have all : ∀ segment ∈ directory ++ [Path.extended root engine.settings.extension],
        Path.Ordinary segment := by
      simpa [or_imp, forall_and] using ⟨outside, rooted.ordinary_extended undivided⟩
    have shape : file = ⟨Path.through (directory ++ [_])⟩ :=
      engine.settings.templateFile_through outside rooted
    rw [shape]
    exact Path.through_ne_empty all (by simp)
  · rintro host call template scopes progress ⟨path, source, parsed⟩
    rcases template.walked_render (engine.surroundings host call) scopes progress with
      ⟨acts, result, final, walked, renders⟩
    refine ⟨acts, result, final, renders, walked, ?_⟩
    rintro before holder ⟨inner, node⟩ body markers behind outer shape rfl opened
    rcases (walked.located parsed).of_visited before holder _ _ shape with
      ⟨found, around, opened', -, -, current⟩
    rw [opened] at opened'
    cases opened'
    have loads := walked.loads parsed shape
    rw [current] at loads
    exact same ▸ loads

def Engine.dotted : Engine :=
  .ofStore { Settings.standard with extension := "tpl.html" } .empty

def Template.citing : Template :=
  ⟨"v1.0/page.tpl.html", [.leaf .inclusion "p.q/head" ">p.q/head" .standard]⟩

/-- There may be dots in the names of directories and in the extension. -/
theorem Engine.neighbour_file_dotted :
    let file : Path := ⟨"v1.0/page.tpl.html"⟩
    let surroundings : Surroundings Unit Unit :=
      dotted.surroundings .permissive fun _ text _ => text
    let scopes : Scopes Unit := ((Scopes.root []).atFile file).extend []
    let start : Progress Unit := ⟨.empty .html, (), #[]⟩
    Template.parse file.text "\x7b\x7b>p.q/head\x7d\x7d" = .ok Template.citing ∧
    ∃ before behind,
      let acts := before ++ .loaded ⟨"v1.0/p.q/head.tpl.html"⟩ :: behind
      Template.citing.render surroundings scopes start =
          Rendering.ended (.ok ()) (start.after acts (fragments acts) ()) ∧
        Template.citing.Walked surroundings .html scopes () acts (.ok ()) () := by
  intro file surroundings scopes start
  have tokens : TokenSequence.read "\x7b\x7b>p.q/head\x7d\x7d".toList =
      ⟨[.tag (.leaf .inclusion "p.q/head") ">p.q/head" .standard ⟨0, 2, 11⟩], none⟩ := by
    decide +kernel
  have parsed : Template.parse file.text "\x7b\x7b>p.q/head\x7d\x7d" = .ok Template.citing := by
    rw [Template.parse, Forest.ofTokens, tokens]
    rfl
  let tag : Walk.Task Unit := ⟨scopes, .leaf .inclusion "p.q/head" ">p.q/head" .standard⟩
  have steps : ∃ acts, Steps surroundings .html ⟨⟨.citing, [tag]⟩, [], ()⟩
      (.visited .citing tag :: .asked true :: acts) (.goOn ⟨⟨.citing, []⟩, [], ()⟩) := by
    have shallow : ([] : List (Layer Unit)).length < surroundings.depthLimit := by decide
    exact ⟨_, .granted rfl rfl (.unresolved rfl shallow rfl)⟩
  rcases steps with ⟨acts, steps⟩
  have runs : Runs surroundings .html (.goOn ⟨⟨.citing, [tag]⟩, [], ()⟩)
      (.visited .citing tag :: .asked true :: acts ++ []) (.ok ()) () :=
    .goOn steps (.goOn .done .stop)
  have walked : Template.citing.Walked surroundings .html scopes ()
      ([.inspected .citing (.ok ())] ++ .visited .citing tag :: .asked true :: (acts ++ []))
      (.ok ()) () :=
    .entered rfl runs
  have named : Path.Ordinary "v1.0" ∧ Path.Ordinary "p.q" :=
    ⟨⟨by decide, by decide, by decide, by decide⟩, ⟨by decide, by decide, by decide, by decide⟩⟩
  have target : dotted.settings.templateFile (Path.through (["v1.0"] ++ ["p.q"] ++ ["head"])) =
      ⟨"v1.0/p.q/head.tpl.html"⟩ := by
    decide +kernel
  have bare : Path.Bare "page" ∧ Path.Bare "head" :=
    ⟨⟨by decide, by decide, by decide⟩, ⟨by decide, by decide, by decide⟩⟩
  rcases @Engine.neighbour_file Unit Unit dotted ["v1.0"] ["p.q"] "page" "head"
      (List.forall_mem_singleton.mpr named.1) (List.forall_mem_singleton.mpr named.2)
      bare.1 bare.2 (by decide) with
    ⟨-, roots, -, loads⟩
  have opened := congrArg (· :: []) (roots .citing [] [])
  rcases loads .permissive (fun _ text _ => text) .citing scopes start ⟨_, _, parsed⟩ with
    ⟨acts, result, final, renders, found, loads⟩
  rcases found.unique walked with ⟨rfl, rfl, rfl⟩
  rcases loads _ _ _ _ _ _ [] rfl rfl opened with ⟨later, shape⟩ | ⟨-, deep⟩
  · rw [target] at shape
    rw [shape] at renders walked
    exact ⟨parsed, [.inspected .citing (.ok ()), .visited .citing tag, .asked true], later,
      renders, walked⟩
  · cases deep

end Mustache
