import Mustache.Document.Yaml
import Mustache.Settings

namespace Mustache.Settings

/-! Settings written as a YAML document. -/

open Document
open Yaml hiding Node

/-- A text setting is any scalar, as it is written. -/
def textOf (node : Yaml.Node) : Resolver String :=
  node.keyText

/-- A number setting is a plain scalar, or a literal block that is tagged as a
whole number. -/
def numberOf (node : Yaml.Node) : Resolver Nat := do
  match ← node.resolve with
  | .scalar _ tag text style =>
    let magnitude :=
      match text.toList with
      | '+' :: digits => readMagnitude? digits
      | digits => readMagnitude? digits
    match magnitude with
    | some number =>
      let readable := style = .plain || (style = .literal && tag == some (coreTag "int"))
      if readable && number < Number.twoTo 64 then return number else failure
    | none => failure
  | _ => failure

/-- A text setting that may be left open. -/
def openTextOf (node : Yaml.Node) : Resolver (Option String) := do
  match ← node.resolve with
  | .scalar _ tag text style =>
    if style ≠ .plain then return some text
    match tag with
    | none => return if text.isEmpty || isNullWord text then none else some text
    | some tag =>
      if tag == coreTag "null" then
        if isNullWord text then return none else failure
      return some text
  | _ => failure

def escapingOfName? (name : String) : Option Escaping :=
  if name == "html" then some .html
  else if name == "none" then some .none
  else Option.none

/-- A kind of escaping is named by a scalar, or by a local tag of a plain nothing. -/
def escapingOf (node : Yaml.Node) : Resolver Escaping := do
  match ← node.resolve with
  | .scalar _ tag text style =>
    if isLocalTag tag then
      if style = .plain && (text.isEmpty || isNullWord text) then
        liftM (escapingOfName? (String.ofList ((tag.getD "").toList.drop 1)))
      else failure
    else liftM (escapingOfName? text)
  | _ => failure

/-- The settings with one of them changed. Unknown names change nothing. -/
def change (settings : Settings) (name : String) (node : Yaml.Node) : Resolver Settings := do
  if name == "template_dir" then return { settings with templateDir := ← textOf node }
  if name == "extension" then return { settings with extension := ← textOf node }
  if name == "max_partial_depth" then return { settings with depthLimit := ← numberOf node }
  if name == "escape" then return { settings with escaping := ← escapingOf node }
  if name == "data" then return { settings with dataFile := ← openTextOf node }
  return settings

def names : List String :=
  ["template_dir", "extension", "max_partial_depth", "escape", "data"]

/-- Change settings one after the other, each of them once at most. -/
def changeAll (seen : List String) (settings : Settings) :
    List (Yaml.Node × Yaml.Node) → Resolver Settings
  | [] => return settings
  | (key, node) :: rest => do
    let name ← key.keyText
    if name ∈ seen && name ∈ names then failure
    changeAll (name :: seen) (← settings.change name node) rest

/-- The settings of a document. What it leaves out, or all if there is nothing in
it, is standard. -/
def ofYaml? (text : List Char) : Option Settings :=
  match readTree? text with
  | none => none
  | some none => some standard
  | some (some root) =>
    match root with
    | .mapping _ _ pairs => ((changeAll [] standard pairs).run (.ofRoot root)).map Prod.fst
    | .scalar _ _ text style => if text.isEmpty && style = .plain then some standard else none
    | _ => none

end Mustache.Settings
