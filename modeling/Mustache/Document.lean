import Mustache.Document.Toml
import Mustache.Document.Yaml

namespace Mustache

/-! Documents with the data of a rendering, in one of three formats. -/

namespace Document

inductive Format where
  | json
  | yaml
  | toml
deriving DecidableEq, Repr

/-- The format of an extension in small letters. -/
def Format.ofName? (name : String) : Option Format :=
  if name == "json" then some .json
  else if name == "yaml" || name == "yml" then some .yaml
  else if name == "toml" then some .toml
  else none

inductive Problem where
  | malformed (format : Format)
  | unknownFormat (name : String)
deriving DecidableEq, Repr

/-- What is said about a problem; what is wrong with a malformed document is not
told. -/
def Problem.message : Problem → String
  | malformed .json => "The document is no JSON"
  | malformed .yaml => "The document is no YAML"
  | malformed .toml => "The document is no TOML"
  | unknownFormat name => "Unsupported data format: " ++ Text.quoted name

variable {Lambda : Type}

def Format.read? (format : Format) (text : List Char) : Option (Value Lambda) :=
  match format with
  | json => readJson? text
  | yaml => readYaml? text
  | toml => readToml? text

def read (formatName text : String) : Except Problem (Value Lambda) :=
  match Format.ofName? formatName with
  | none => .error (.unknownFormat formatName)
  | some format =>
    match format.read? text.toList with
    | some value => .ok value
    | none => .error (.malformed format)

end Document

/-- The entries that a document binds at the root of a rendering: those of a map,
or none if there is nothing in it. Of any other value the detailed form is given
back. -/
def Value.rootEntries {Lambda : Type} : Value Lambda → Except String (Bindings Lambda)
  | map entries => .ok entries
  | absent => .ok []
  | other => .error other.detail

def Value.rootProblem (detail : String) : String :=
  "Data root must be a map, found " ++ detail

end Mustache
