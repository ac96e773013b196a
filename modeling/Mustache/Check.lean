import Mustache.Workspace

namespace Mustache

/-! Checking templates: all of a directory are parsed, and a report tells what was
found. -/

/-- A file that was checked, by its path below the directory. -/
structure Checked where
  path : Path
  outcome : Except Fault Template

namespace Checked

def fault? (checked : Checked) : Option Fault :=
  match checked.outcome with
  | .ok _ => none
  | .error fault => some fault

def pragmaLines (template : Template) : List String :=
  template.pragmas.flatten.map fun (key, value) =>
    "         pragma " ++ key ++ " = " ++ Text.quoted value ++ "\n"

def lines (checked : Checked) : List String :=
  match checked.outcome with
  | .ok template =>
    ("  ok   " ++ checked.path.text ++ " (" ++ toString template.size ++ " tags)\n") ::
      pragmaLines template
  | .error fault => ["  FAIL " ++ fault.message ++ "\n"]

def report (all : List Checked) : String :=
  String.join (("Templates (" ++ toString all.length ++ "):\n") :: all.flatMap lines)

def verdict? (all : List Checked) : Option Failure :=
  let faulty := (all.filter (·.fault?.isSome)).length
  if faulty = 0 then none else some (.faulty faulty all.length)

end Checked

/-- Check the file at the end of a way below a directory, if it has the extension
of templates. -/
def Disk.checkFile (disk : Disk) (directory : Path) (extension : String) (way : List String) :
    Work (Option Checked) := do
  let path := way.foldl Path.join directory
  if path.extension? = some extension then
    let name := String.intercalate "/" way
    let text ← Work.readText disk path .templateUnreadable
    return some ⟨⟨name⟩, Template.parse name text⟩
  return none

def Disk.checkDirectory (disk : Disk) (directory : Path) (extension : String) :
    Work (List Checked) := do
  Work.ask (.filesBelow directory)
  return (← (disk.filesBelow directory).mapM (disk.checkFile directory extension)).filterMap id

/-- Check the templates of a workspace, or those of another directory in it. -/
def Workspace.check (workspace : Workspace) (disk : Disk) (path : Option Path) :
    Work (List Checked) :=
  let directory := match path with
    | some path => workspace.base.join path.text
    | none => workspace.templateDirectory
  disk.checkDirectory directory workspace.settings.extension

end Mustache
