import Mustache.Disk.Question
import Mustache.Document
import Mustache.Engine
import Mustache.Settings.Reading

namespace Mustache

/-! A workspace is a directory on a disk with settings, templates and data. -/

inductive Failure where
  | rendering (error : Error)
  /-- The program breaks off: an extension with a slash in it cannot be added to a name. -/
  | extensionDivided (extension : String)
  | settingsUnreadable (cause : DiskError)
  | settingsMalformed
  | dataUnreadable (path : Path) (cause : DiskError)
  | dataInvalid (path : Path) (problem : Document.Problem)
  /-- The root of the data is no map but a value of this form. -/
  | dataRoot (detail : String)
  | templateUnreadable (cause : DiskError)
  /-- Some of the templates that were checked cannot be parsed. -/
  | faulty (count total : Nat)
  | outputUnwritable (cause : DiskError)
  /-- There is no such address to serve at. -/
  | badAddress
deriving DecidableEq, Repr

def Failure.message : Failure → String
  | rendering error => error.message
  | extensionDivided extension =>
    "extension cannot contain path separators: " ++ Text.quoted extension
  | settingsUnreadable cause => cause.message
  | settingsMalformed => "The settings are no YAML of their form"
  | dataUnreadable path _ => "Failed to read data file " ++ path.quoted
  | dataInvalid path _ => "Invalid data in " ++ path.quoted
  | dataRoot detail => Value.rootProblem detail
  | templateUnreadable cause => cause.message
  | faulty count total => toString count ++ " of " ++ toString total ++ " templates failed to parse"
  | outputUnwritable cause => cause.message
  | badAddress => "invalid socket address syntax"

/-- The code with which the program ends. -/
def Failure.exitCode : Failure → Nat
  | extensionDivided _ => 101
  | _ => 1

/-- Work on a disk. It keeps the questions that it puts, also where it fails. -/
abbrev Work := EStateM Failure (List Question)

namespace Work

def ask (question : Question) : Work Unit :=
  modify (question :: ·)

def readText (disk : Disk) (path : Path) (onError : DiskError → Failure) : Work String := do
  ask (.read path)
  match disk.readText path with
  | .ok text => return text
  | .error error => throw (onError error)

end Work

/-- The data of a file, in the format that its extension tells in any case. -/
def Disk.loadData (disk : Disk) (path : Path) : Work (Bindings Empty) := do
  let text ← Work.readText disk path (.dataUnreadable path)
  let format := (path.extension?.getD "").map Char.toLower
  match Document.read format text with
  | .error problem => throw (.dataInvalid path problem)
  | .ok value =>
    match value.rootEntries with
    | .ok entries => return entries
    | .error detail => throw (.dataRoot detail)

structure Workspace where
  base : Path
  settings : Settings
deriving DecidableEq, Repr

namespace Workspace

def settingsFile : String := "_mustache.yml"

def loadSettings (disk : Disk) (path : Path) : Work Settings := do
  let text ← Work.readText disk path .settingsUnreadable
  match Settings.ofYaml? text.toList with
  | some settings => return settings
  | none => throw .settingsMalformed

/-- The workspace of a directory. Its settings are read from a given file, or from
the one in the directory if there is any. -/
def load (disk : Disk) (base : Path) (settingsPath : Option Path) : Work Workspace := do
  match settingsPath with
  | some path => return ⟨base, ← loadSettings disk path⟩
  | none =>
    let path := base.join settingsFile
    Work.ask (.read path)
    if disk.has path then return ⟨base, ← loadSettings disk path⟩
    else return ⟨base, .standard⟩

def templateDirectory (workspace : Workspace) : Path :=
  workspace.settings.templateRoot workspace.base

def engine (workspace : Workspace) (disk : Disk) : Engine :=
  .ofStore workspace.settings (disk.store workspace.templateDirectory)

/-- The data of a file, or of the one that the settings name, or none. -/
def loadData (workspace : Workspace) (disk : Disk) (path : Option Path) :
    Work (Bindings Empty) :=
  match path.map Path.text <|> workspace.settings.dataFile with
  | some path => disk.loadData (workspace.base.join path)
  | none => return []

def renderPath (workspace : Workspace) (disk : Disk) (name : String) (data : Bindings Empty) :
    Work String := do
  match (workspace.engine disk).runPath? .permissive Empty.elim name data () with
  | none => throw (.extensionDivided workspace.settings.extension)
  | some (result, progress) =>
    modify (Question.ofJournal workspace.templateDirectory progress.journal ++ ·)
    match result with
    | .ok text => return text
    | .error error => throw (.rendering error)

def render (workspace : Workspace) (disk : Disk) (name : String) (dataPath : Option Path) :
    Work String := do
  let data ← workspace.loadData disk dataPath
  workspace.renderPath disk name data

end Workspace

end Mustache
