import Mustache.Path
import Mustache.Value

namespace Mustache

/-! Scopes of names, one inside the other. A name means what the innermost scope
that binds it says. -/

/-- The names bound in one scope, and the file whose template it belongs to. -/
structure Scope (Lambda : Type) where
  locals : Bindings Lambda
  file : Option Path

/-- A chain of scopes: the innermost one and those around it, from the inside out. -/
structure Scopes (Lambda : Type) where
  inner : Scope Lambda
  outer : List (Scope Lambda)

namespace Scopes

variable {Lambda : Type}

/-! ## Building chains -/

def root (locals : Bindings Lambda) : Scopes Lambda :=
  ⟨⟨locals, none⟩, []⟩

def all (scopes : Scopes Lambda) : List (Scope Lambda) :=
  scopes.inner :: scopes.outer

def enter (scopes : Scopes Lambda) (scope : Scope Lambda) : Scopes Lambda :=
  ⟨scope, scopes.all⟩

/-- A scope without names of its own. -/
def child (scopes : Scopes Lambda) : Scopes Lambda :=
  scopes.enter ⟨[], none⟩

/-- A scope in which the keys of a map are names. -/
def bind (scopes : Scopes Lambda) (entries : Bindings Lambda) : Scopes Lambda :=
  scopes.enter ⟨entries, none⟩

/-- A scope for an element of a list: the keys of a map are names, and any other
element has the name `.`. -/
def bindElement (scopes : Scopes Lambda) (element : Value Lambda) : Scopes Lambda :=
  match element with
  | .map entries => scopes.bind entries
  | other => scopes.bind [(".", other)]

/-- A scope for a template that is included from a file. -/
def enterFile (scopes : Scopes Lambda) (file : Path) : Scopes Lambda :=
  scopes.enter ⟨[], some file⟩

/-- Mark the innermost scope as belonging to a file. -/
def atFile (scopes : Scopes Lambda) (file : Path) : Scopes Lambda :=
  { scopes with inner := { scopes.inner with file := some file } }

def insert (scopes : Scopes Lambda) (name : String) (value : Value Lambda) : Scopes Lambda :=
  { scopes with inner := { scopes.inner with locals := scopes.inner.locals.insert name value } }

/-- Bind names in the innermost scope that it does not bind yet. -/
def extend (scopes : Scopes Lambda) (bindings : Bindings Lambda) : Scopes Lambda :=
  { scopes with inner := { scopes.inner with locals := scopes.inner.locals.extend bindings } }

/-! ## Looking up -/

/-- The value of a name that is not divided by dots. -/
def resolveIn (name : String) : List (Scope Lambda) → Value Lambda
  | [] => .absent
  | scope :: rest =>
    match scope.locals.find? name with
    | some value => value
    | none => resolveIn name rest

def resolve (scopes : Scopes Lambda) (name : String) : Value Lambda :=
  resolveIn name scopes.all

/-- The value at the end of a path of keys through maps. -/
def descend (value : Value Lambda) : List String → Value Lambda
  | [] => value
  | key :: rest =>
    match value.key? key with
    | some inside => descend inside rest
    | none => .absent

/-- The value of a name. A dot divides a name: the first part is looked up in the
chain and the others inside the maps found, with no way back to the chain. The
dot alone is a name of its own. -/
def lookup (scopes : Scopes Lambda) (name : String) : Value Lambda :=
  if name = "." then scopes.resolve "."
  else
    match Text.stringPieces '.' name with
    | [] => .absent
    | first :: rest => descend (scopes.resolve first) rest

/-- The file of the innermost scope that has one; an empty path is none. -/
def fileIn : List (Scope Lambda) → Option Path
  | [] => none
  | scope :: rest =>
    match scope.file with
    | some file => if file.text.isEmpty then fileIn rest else some file
    | none => fileIn rest

def currentFile (scopes : Scopes Lambda) : Option Path :=
  fileIn scopes.all

end Scopes

end Mustache
