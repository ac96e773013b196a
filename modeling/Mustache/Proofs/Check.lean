import Mustache.Check
import Mustache.Proofs.Disk.Tree
import Mustache.Proofs.Filling
import Mustache.Proofs.Reach

namespace Mustache

/-! What a check has seen. If it ends well, each file that it lists with the extension
has been read and parsed. -/

namespace Work

variable {α β : Type} {asked questions : List Question}

theorem exists_of_bind {first : Work α} {next : α → Work β} {result : β}
    (ends : (first >>= next) asked = .ok result questions) :
    ∃ value between, first asked = .ok value between ∧ next value between = .ok result questions := by
  change EStateM.bind first next asked = _ at ends
  unfold EStateM.bind at ends
  split at ends
  · exact ⟨_, _, ‹_›, ends⟩
  · cases ends

/-- Each item has a result, and each result comes from an item. -/
theorem mapM_eq_ok {step : α → Work β} {items : List α} {results : List β}
    (ends : items.mapM step asked = .ok results questions) :
    (∀ item ∈ items, ∃ result ∈ results, ∃ before after, step item before = .ok result after) ∧
      ∀ result ∈ results, ∃ item ∈ items, ∃ before after, step item before = .ok result after := by
  induction items generalizing asked results with
  | nil =>
      cases ends
      exact ⟨nofun, nofun⟩
  | cons first rest induction =>
      rw [List.mapM_cons] at ends
      rcases exists_of_bind ends with ⟨result, between, steps, ends⟩
      rcases exists_of_bind ends with ⟨others, after, further, ends⟩
      cases ends
      rcases induction further with ⟨has, comes⟩
      rw [List.forall_mem_cons, List.forall_mem_cons]
      refine ⟨⟨⟨result, List.mem_cons_self, asked, between, steps⟩, ?_⟩,
        ⟨first, List.mem_cons_self, asked, between, steps⟩, ?_⟩
      · intro item listed
        rcases has item listed with ⟨other, member, steps⟩
        exact ⟨other, List.mem_cons_of_mem result member, steps⟩
      · intro other member
        rcases comes other member with ⟨item, listed, steps⟩
        exact ⟨item, List.mem_cons_of_mem first listed, steps⟩

theorem readText_eq_ok {disk : Disk} {path : Path} {onError : DiskError → Failure} {text : String}
    (ends : readText disk path onError asked = .ok text questions) :
    disk.readText path = .ok text := by
  rcases exists_of_bind ends with ⟨-, between, -, ends⟩
  cases reads : disk.readText path with
  | error error =>
      rw [reads] at ends
      cases ends
  | ok text =>
      rw [reads] at ends
      cases ends
      rfl

end Work

namespace Disk

variable {disk : Disk} {directory : Path} {extension : String} {way : List String}
  {asked questions : List Question}

theorem checkFile_eq_ok {result : Option Checked}
    (ends : disk.checkFile directory extension way asked = .ok result questions)
    (carried : (way.foldl Path.join directory).extension? = some extension) :
    ∃ text, disk.readText (way.foldl Path.join directory) = .ok text ∧
      result = some ⟨⟨String.intercalate "/" way⟩,
        Template.parse (String.intercalate "/" way) text⟩ := by
  unfold checkFile at ends
  dsimp only at ends
  rw [if_pos carried] at ends
  rcases Work.exists_of_bind ends with ⟨text, between, reads, ends⟩
  cases ends
  exact ⟨text, Work.readText_eq_ok reads, rfl⟩

theorem checkDirectory_eq_ok {all : List Checked}
    (ends : disk.checkDirectory directory extension asked = .ok all questions) :
    ∃ results : List (Option Checked), all = results.filterMap id ∧
      (∀ way ∈ disk.filesBelow directory, ∃ result ∈ results, ∃ before after,
        disk.checkFile directory extension way before = .ok result after) ∧
      ∀ result ∈ results, ∃ way ∈ disk.filesBelow directory, ∃ before after,
        disk.checkFile directory extension way before = .ok result after := by
  rcases Work.exists_of_bind ends with ⟨-, before, -, ends⟩
  rcases Work.exists_of_bind ends with ⟨results, between, maps, ends⟩
  cases ends
  exact ⟨results, rfl, Work.mapM_eq_ok maps⟩

/-- No other files are checked than those with the extension. -/
theorem carried_of_checked {all : List Checked}
    (ends : disk.checkDirectory directory extension asked = .ok all questions)
    {checked : Checked} (member : checked ∈ all) :
    ∃ way ∈ disk.filesBelow directory,
      (way.foldl Path.join directory).extension? = some extension := by
  rcases checkDirectory_eq_ok ends with ⟨results, rfl, -, comes⟩
  rcases List.mem_filterMap.mp member with ⟨result, listed, rfl⟩
  rcases comes _ listed with ⟨way, below, before, after, steps⟩
  refine ⟨way, below, ?_⟩
  by_contra other
  unfold checkFile at steps
  dsimp only at steps
  rw [if_neg other] at steps
  cases steps

/-- All files with the extension are checked. -/
theorem exists_checked {all : List Checked}
    (ends : disk.checkDirectory directory extension asked = .ok all questions)
    (listed : way ∈ disk.filesBelow directory)
    (carried : (way.foldl Path.join directory).extension? = some extension) :
    ∃ text, disk.readText (way.foldl Path.join directory) = .ok text ∧
      ⟨⟨String.intercalate "/" way⟩, Template.parse (String.intercalate "/" way) text⟩ ∈ all := by
  rcases checkDirectory_eq_ok ends with ⟨results, rfl, has, -⟩
  rcases has way listed with ⟨result, member, before, after, steps⟩
  rcases checkFile_eq_ok steps carried with ⟨text, reads, rfl⟩
  exact ⟨text, reads, List.mem_filterMap.mpr ⟨_, member, rfl⟩⟩

end Disk

theorem Checked.verdict?_eq_none_iff {all : List Checked} :
    Checked.verdict? all = none ↔ ∀ checked ∈ all, checked.fault? = none := by
  unfold verdict?
  dsimp only
  split
  · next clean =>
    rw [List.length_eq_zero_iff, List.filter_eq_nil_iff] at clean
    simpa using clean
  · next faulty =>
    rw [List.length_eq_zero_iff, List.filter_eq_nil_iff] at faulty
    simpa using faulty

/-- The name of a template has no part in whether it can be parsed. -/
theorem Template.exists_parse_eq_error {name source : String} {fault : Fault}
    (failed : parse name source = .error fault) (other : String) :
    ∃ renamed, parse other source = .error renamed := by
  unfold parse at failed ⊢
  dsimp only at failed ⊢
  cases tree : Forest.ofTokens (.read source.toList) with
  | error defect => exact ⟨_, rfl⟩
  | ok forest =>
      rw [tree] at failed
      cases failed

theorem Disk.exists_of_readText {disk : Disk} {path : Path} {text : String}
    (reads : disk.readText path = .ok text) :
    ∃ bytes, disk.read path = .ok bytes ∧ String.fromUTF8? bytes = some text := by
  unfold Disk.readText at reads
  split at reads
  · cases reads
  · next bytes found =>
    split at reads <;> cases reads
    exact ⟨bytes, found, ‹_›⟩

theorem Disk.exists_of_store_readText {disk : Disk} {directory path : Path} {text : String}
    (reads : (disk.store directory).readText path = .ok text) :
    ∃ bytes, disk.read (directory.join path.text) = .ok bytes ∧
      String.fromUTF8? bytes = some text := by
  unfold Store.readText Disk.store at reads
  dsimp only at reads
  cases found : disk.read (directory.join path.text) with
  | error error =>
      rw [found] at reads
      cases error <;> cases reads
  | ok bytes =>
      rw [found] at reads
      dsimp only at reads
      split at reads <;> cases reads
      exact ⟨bytes, rfl, ‹_›⟩

/-- Whatever a path with the extension leads to, below a directory that was checked and
had no fault, can be parsed. -/
theorem FileTree.parses_of_check {tree : FileTree} {home : List String} {directory path : Path}
    {extension text : String} {asked questions : List Question} {all : List Checked}
    (named : directory.text ≠ "") (some : extension ≠ "") (undotted : '.' ∉ extension.toList)
    (ends : (tree.disk home).checkDirectory directory extension asked = .ok all questions)
    (clean : Checked.verdict? all = none) (descends : path.Descends)
    (carries : path.Carries extension)
    (reads : ((tree.disk home).store directory).readText path = .ok text) (fault : Fault) :
    Template.parse path.text text ≠ .error fault := by
  intro failed
  rcases Disk.exists_of_store_readText reads with ⟨bytes, found, decoded⟩
  rcases listed_of_read named descends found with ⟨listed, same⟩
  have carried := (carries.steps some directory).extension? some undotted
  rcases Disk.exists_checked ends listed carried with ⟨text', again, member⟩
  rcases Disk.exists_of_readText again with ⟨bytes', found', decoded'⟩
  cases same bytes' found'
  cases decoded.symm.trans decoded'
  rcases Template.exists_parse_eq_error failed (String.intercalate "/" path.steps) with
    ⟨renamed, failed⟩
  have passed := Checked.verdict?_eq_none_iff.mp clean _ member
  rw [Checked.fault?, failed] at passed
  cases passed

/-! ## Renderings behind a check -/

section Rendering

open Walk

variable {Lambda : Type}

/-- Where the extension of templates has no dot, a check without any fault promises that no
rendering comes upon one, as long as all names go down to files. An extension is what is
behind the last dot of a name, so with a dot in it no file is checked at all. The path of
the template directory is not empty (`named`): the empty path is no directory, so a check
of it lists nothing, while names below it are files of the current directory. -/
theorem Workspace.no_fault_of_check {tree : FileTree} {home : List String}
    {workspace : Workspace} {asked questions : List Question} {all : List Checked}
    (named : workspace.templateDirectory.text ≠ "") (some : workspace.settings.extension ≠ "")
    (undivided : '/' ∉ workspace.settings.extension.toList)
    (checked : workspace.check (tree.disk home) none asked = .ok all questions)
    (clean : Checked.verdict? all = none) :
    let engine := workspace.engine (tree.disk home)
    ('.' ∈ workspace.settings.extension.toList → all = []) ∧
    ('.' ∉ workspace.settings.extension.toList →
      ∀ (call : Lambda → String → Scopes Lambda → String) (name : String)
        (data : Bindings Lambda) (front last : List Char),
        Web.ProperName name → Path.Ends ⟨name⟩ front last → '.' ∉ last →
        (∀ included, engine.Cites call name data included → Web.ProperName included) →
        ∀ fault, (engine.run (engine.renderPath .permissive call name data) ()).1 ≠
          .error (.fault fault)) := by
  intro engine
  constructor
  · intro dotted
    apply List.eq_nil_iff_forall_not_mem.mpr
    intro one member
    rcases Disk.carried_of_checked checked member with ⟨way, -, carried⟩
    exact Path.not_mem_of_extension? carried dotted
  · intro undotted call name data front last proper ends plain further
    apply Engine.renderPath_ne_fault some undivided _ proper ends plain further
    intro path descends carries text reads fault
    exact FileTree.parses_of_check named some undotted checked clean descends carries reads fault

/-- A page that includes another template, each in a file with the extension. -/
def FileTree.site : FileTree :=
  .directory [("index.html", .file "\x7b\x7b>part\x7d\x7d".toUTF8), ("part.html", .file "".toUTF8)]

def Workspace.site : Workspace :=
  ⟨⟨"."⟩, { Settings.standard with extension := "html" }⟩

def Engine.site : Engine :=
  Workspace.site.engine (FileTree.site.disk [])

def Template.index : Template :=
  ⟨"index.html", [.leaf .inclusion "part" ">part" .standard]⟩

def Template.part : Template :=
  ⟨"part.html", []⟩

/-- The page comes to no other name than the one of its tag. -/
theorem Engine.cites_site {included : String}
    (cites : Engine.site.Cites Empty.elim "index" [] included) : included = "part" := by
  rcases cites with ⟨template, acts, result, found, walked, cites⟩
  have file : Engine.site.settings.templateFile "index" = ⟨"index.html"⟩ := by decide +kernel
  have read : Engine.site.store.readText ⟨"index.html"⟩ = .ok "\x7b\x7b>part\x7d\x7d" := by
    decide +kernel
  have tokens : TokenSequence.read "\x7b\x7b>part\x7d\x7d".toList =
      ⟨[.tag (.leaf .inclusion "part") ">part" .standard ⟨0, 2, 7⟩], none⟩ := by
    decide +kernel
  have parsed : Template.parse "index.html" "\x7b\x7b>part\x7d\x7d" = .ok .index := by
    rw [Template.parse, Forest.ofTokens, tokens]
    rfl
  rw [file] at found walked
  cases (Store.template?_of_parsed read parsed).symm.trans found
  let surroundings : Surroundings Unit Empty := Engine.site.surroundings .permissive Empty.elim
  let scopes : Scopes Empty := ((Scopes.root []).atFile ⟨"index.html"⟩).extend []
  let tag : Walk.Task Empty := ⟨scopes, .leaf .inclusion "part" ">part" .standard⟩
  have performs : Performs surroundings Engine.site.encoding ⟨⟨.index, []⟩, [], ()⟩ tag
      [.loaded ⟨"part.html"⟩, .inspected .part (.ok ()), .entered .part]
      (.goOn ⟨⟨.part, []⟩, [⟨.index, []⟩], ()⟩) := by
    have path : Path.ofInclusion scopes.currentFile "part" "html" = ⟨"part.html"⟩ := by
      decide +kernel
    have effect : tag.effect surroundings Engine.site.encoding = .includes ⟨"part.html"⟩ :=
      congrArg Effect.includes path
    have shallow : ([] : List (Layer Empty)).length < surroundings.depthLimit := by decide
    have empty : surroundings.store.readText ⟨"part.html"⟩ = .ok "" := by decide +kernel
    exact .enters effect shallow empty (Template.parse_empty "part.html") rfl
  have runs : Runs surroundings Engine.site.encoding (.goOn ⟨⟨.index, [tag]⟩, [], ()⟩)
      ([.visited .index tag, .asked true, .loaded ⟨"part.html"⟩, .inspected .part (.ok ()),
        .entered .part] ++ ([.left] ++ ([] ++ []))) (.ok ()) () :=
    .goOn (.granted rfl rfl performs) (.goOn .leave (.goOn .done .stop))
  have whole : Template.index.Walked surroundings Engine.site.encoding scopes () _ (.ok ()) () :=
    .entered rfl runs
  rcases walked.unique whole with ⟨rfl, -, -⟩
  rcases cites with ⟨holder, inner, body, markers, member⟩
  have named : .visited holder ⟨inner, .leaf .inclusion included body markers⟩ =
      Act.visited Template.index tag := by
    simpa using member
  have node := congrArg Walk.Task.node (Act.visited.inj named).2
  cases node
  rfl

theorem Workspace.no_fault_of_check_site :
    ∃ all questions, site.check (FileTree.site.disk []) none [] = .ok all questions ∧
      Checked.verdict? all = none ∧
      ∀ fault, (Engine.site.run (Engine.site.renderPath .permissive Empty.elim "index" []) ()).1 ≠
        .error (.fault fault) := by
  have verdict : (match site.check (FileTree.site.disk []) none [] with
      | .ok all _ => Checked.verdict? all
      | .error failure _ => some failure) = none := by
    decide +kernel
  cases checked : site.check (FileTree.site.disk []) none [] with
  | error failure questions =>
      rw [checked] at verdict
      cases verdict
  | ok all questions =>
      rw [checked] at verdict
      refine ⟨all, questions, rfl, verdict, ?_⟩
      have ends : Path.Ends ⟨"index"⟩ [] "index".toList := ⟨rfl, .inl rfl, by decide⟩
      have proper : ∀ included, Engine.site.Cites Empty.elim "index" [] included →
          Web.ProperName included := by
        rintro included cites
        rw [Engine.cites_site cites]
        exact ⟨by decide, by decide, by decide, by decide⟩
      exact (no_fault_of_check (by decide) (by decide) (by decide) checked verdict).2 (by decide)
        Empty.elim "index" [] [] "index".toList ⟨by decide, by decide, by decide, by decide⟩ ends
        (by decide) proper

/-- A page with a fault, in a file whose extension has a dot. -/
def FileTree.unclosed : FileTree :=
  .directory [("index.tpl.html", .file "\x7b\x7b#a\x7d\x7d".toUTF8)]

def Workspace.twofold : Workspace :=
  ⟨⟨"."⟩, { Settings.standard with extension := "tpl.html" }⟩

def Engine.twofold : Engine :=
  Workspace.twofold.engine (FileTree.unclosed.disk [])

/-- The check passes over the file, and a rendering comes upon the fault. -/
theorem Workspace.no_fault_of_check_unclosed :
    Engine.twofold.settings.extension ≠ "" ∧ '/' ∉ Engine.twofold.settings.extension.toList ∧
      (∃ questions, twofold.check (FileTree.unclosed.disk []) none [] = .ok [] questions) ∧
      Checked.verdict? [] = none ∧ Web.ProperName "index" ∧ '.' ∉ "index".toList ∧
      (∀ included, ¬ Engine.twofold.Cites Empty.elim "index" [] included) ∧
      (Engine.twofold.run (Engine.twofold.renderPath .permissive Empty.elim "index" []) ()).1 =
        .error (.fault ⟨"index.tpl.html", ⟨1, 1⟩, .unterminatedSection "a"⟩) := by
  refine ⟨by decide, by decide, ⟨_, rfl⟩, rfl, ⟨by decide, by decide, by decide, by decide⟩,
    by decide, ?_, by decide +kernel⟩
  rintro included ⟨template, acts, result, found, -⟩
  have lost : (Engine.twofold.store.template?
      (Engine.twofold.settings.templateFile "index")).isNone = true := by
    decide +kernel
  rw [found] at lost
  cases lost

end Rendering

end Mustache
