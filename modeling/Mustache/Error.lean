import Mustache.Path
import Mustache.Template
import Mustache.Text.Quoted

namespace Mustache

/-! Why reading or rendering a template ends without a result. -/

/-- Why a template could not be had from a store. -/
inductive LoadError where
  | notFound (path : Path)
  /-- The bytes of the file are no UTF-8 text. -/
  | notText (path : Path)
  | unreadable (reason : String)
deriving DecidableEq, Repr

inductive Error where
  | fault (fault : Fault)
  /-- The host refuses to go on, for a reason of its own. -/
  | refused (reason : String)
  | tooDeep (limit : Nat) (path : Path)
  | interrupted
  | load (error : LoadError)
deriving DecidableEq, Repr

def Path.quoted (path : Path) : String :=
  Text.quoted path.text

def LoadError.message : LoadError → String
  | notFound path => "Template not found: " ++ path.quoted
  | notText path => "Template " ++ path.quoted ++ " is not valid UTF-8"
  | unreadable reason => "IO error: " ++ reason

def Error.message : Error → String
  | .fault found => found.message
  | .refused reason => "Evaluation error: " ++ reason
  | .tooDeep limit path =>
    "Partial recursion limit of " ++ toString limit ++ " exceeded while including " ++ path.quoted
  | .interrupted => "Rendering interrupted by host"
  | .load error => error.message

end Mustache
