import Mustache.Path
import Mustache.Rendering

namespace Mustache

/-! Settings of an engine. -/

inductive Escaping where
  | html
  | none
deriving DecidableEq, Repr

def Escaping.encoding : Escaping → Encoding
  | html => Encoding.html
  | none => Encoding.none

structure Settings where
  templateDir : String
  /-- Extension of template files, without a dot. -/
  extension : String
  /-- Number of templates that may be included one inside the other. -/
  depthLimit : Nat
  escaping : Escaping
  /-- File of the data to render with where no other is given. -/
  dataFile : Option String
deriving DecidableEq, Repr

namespace Settings

def standard : Settings :=
  ⟨".", Template.standardExtension, Template.standardDepth, .html, none⟩

/-- The template directory, below a base directory unless it is absolute. -/
def templateRoot (settings : Settings) (base : Path) : Path :=
  base.join settings.templateDir

/-- The file of a template. A name that has an extension is a file name already. -/
def templateFile (settings : Settings) (name : String) : Path :=
  let path : Path := ⟨name⟩
  if path.extension?.isSome || settings.extension.isEmpty then path
  else path.withExtension settings.extension

example : (standard.templateFile "docs/index").text = "docs/index.mustache" := by decide +kernel

example : (standard.templateFile "feed.xml").text = "feed.xml" := by decide +kernel

/-- The file of a template, unless the program breaks off: it cannot add an extension
with a slash in it to a name. -/
def templateFile? (settings : Settings) (name : String) : Option Path :=
  if (⟨name⟩ : Path).extension?.isNone && settings.extension.toList.contains '/' then none
  else some (settings.templateFile name)

theorem eq_templateFile_of_some {settings : Settings} {name : String} {file : Path}
    (some : settings.templateFile? name = some file) : file = settings.templateFile name := by
  rw [templateFile?] at some
  split at some <;> cases some
  rfl

end Settings

end Mustache
