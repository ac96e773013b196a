import Mustache.Document.Yaml.Plain

namespace Mustache.Document

namespace Yaml

/-! YAML documents. An alias stands for a copy of its node. -/

variable {Lambda : Type}

/-- The nodes with anchors, and how many aliases may still be followed. -/
structure Aliases where
  anchored : List (Nat × Node)
  left : Nat

/-- Of several nodes with one number the last one counts. There may be a hundred
aliases for each step in which the document is written. -/
def Aliases.ofRoot (root : Node) : Aliases :=
  ⟨root.anchored.reverse, 100 * root.steps⟩

abbrev Resolver := StateT Aliases Option

def Node.resolve (node : Node) : Resolver Node := do
  match node with
  | reference anchor =>
    let aliases ← get
    match aliases.left, aliases.anchored.find? (·.1 == anchor) with
    | left + 1, some (_, target) =>
      set { aliases with left }
      return target
    | _, _ => failure
  | node => return node

/-- The text of a key; it does not matter how it is written. -/
def Node.keyText (node : Node) : Resolver String := do
  match ← node.resolve with
  | scalar _ _ text _ => return text
  | _ => failure

/-- The value of a node with at most `depth` collections one inside the other.
The last value of a key counts, at the place of the first. -/
def Node.read (depth : Nat) (node : Node) : Resolver (Value Lambda) := do
  match ← node.resolve with
  | reference _ => failure
  | scalar _ tag text style => liftM (scalarValue? tag text style : Option (Value Lambda))
  | sequence _ tag items =>
    match depth with
    | 0 => failure
    | inside + 1 =>
      if isLocalTag tag then failure
      return .list (← items.mapM (read inside))
  | mapping _ tag pairs =>
    match depth with
    | 0 => failure
    | inside + 1 =>
      if isLocalTag tag then failure
      let entries ← pairs.mapM fun (key, value) => do
        return (← key.keyText, ← value.read inside)
      return .map (Entries.ofPairs entries)

end Yaml

/-- The value of a YAML document. Nothing is read as `absent`. -/
def readYaml? {Lambda : Type} (text : List Char) : Option (Value Lambda) :=
  match Yaml.readTree? text with
  | none => none
  | some none => some .absent
  | some (some root) => ((root.read 128).run (.ofRoot root)).map Prod.fst

end Mustache.Document
