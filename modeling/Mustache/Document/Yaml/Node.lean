import Mustache.Document.Yaml.Token.Sequence
import Mustache.Entries

namespace Mustache.Document.Yaml

/-! A YAML document as a tree. Anchors are numbered, and an alias tells the
number of the anchor that it stands for. -/

inductive Node where
  | reference (anchor : Nat)
  | scalar (anchor : Option Nat) (tag : Option String) (text : String) (style : Style)
  | sequence (anchor : Option Nat) (tag : Option String) (items : List Node)
  | mapping (anchor : Option Nat) (tag : Option String) (pairs : List (Node × Node))

namespace Node

def empty : Node :=
  scalar none none "" .plain

mutual
/-- The number of steps in which the tree is written: one for a scalar or an
alias, two for the ends of a collection. -/
def steps : Node → Nat
  | reference _ | scalar .. => 1
  | sequence _ _ items => stepsOfItems items + 2
  | mapping _ _ pairs => stepsOfPairs pairs + 2

def stepsOfItems : List Node → Nat
  | [] => 0
  | item :: rest => item.steps + stepsOfItems rest

def stepsOfPairs : List (Node × Node) → Nat
  | [] => 0
  | (key, value) :: rest => key.steps + value.steps + stepsOfPairs rest
end

mutual
/-- The nodes with anchors, each before those inside of it. -/
def anchored : Node → List (Nat × Node)
  | reference _ => []
  | node@(scalar anchor ..) => (anchor.map (·, node)).toList
  | node@(sequence anchor _ items) => (anchor.map (·, node)).toList ++ anchoredItems items
  | node@(mapping anchor _ pairs) => (anchor.map (·, node)).toList ++ anchoredPairs pairs

def anchoredItems : List Node → List (Nat × Node)
  | [] => []
  | item :: rest => item.anchored ++ anchoredItems rest

def anchoredPairs : List (Node × Node) → List (Nat × Node)
  | [] => []
  | (key, value) :: rest => key.anchored ++ value.anchored ++ anchoredPairs rest
end

end Node

/-! ## From tokens to trees -/

structure Parse where
  tokens : List Token
  /-- The numbers of the anchors so far. -/
  anchors : Entries Nat
  /-- What the handles of tags stand for. -/
  handles : Entries String

abbrev Parser := StateT Parse Option

def nextToken : Parser Token := do
  match (← get).tokens with
  | token :: _ => return token
  | [] => failure

def skipToken : Parser Unit :=
  modify fun parse => { parse with tokens := parse.tokens.drop 1 }

def passToken (token : Token) : Parser Bool := do
  if (← nextToken) = token then
    skipToken
    return true
  return false

/-- A new anchor has the number of different names that came before it. A name
may be used again, for another node. -/
def bindAnchor (name : Option String) : Parser (Option Nat) := do
  match name with
  | none => return none
  | some name =>
    let parse ← get
    let anchor := parse.anchors.length
    set { parse with anchors := parse.anchors.insert name anchor }
    return some anchor

def passAnchor : Parser (Option String) := do
  match ← nextToken with
  | .anchor name => skipToken; return some name
  | _ => return none

def passTag : Parser (Option String) := do
  match ← nextToken with
  | .tag handle suffix =>
    skipToken
    if handle.isEmpty then return some suffix
    match (← get).handles.find? handle with
    | some stem => return some (stem ++ suffix)
    | none => failure
  | _ => return none

/-- An anchor and a tag, in either order. -/
def readProperties : Parser (Option String × Option String) := do
  match ← passAnchor with
  | some name => return (some name, ← passTag)
  | none =>
    let tag ← passTag
    return (← if tag.isSome then passAnchor else pure none, tag)

/-- The node that comes next; nothing is written before one of the given tokens. -/
def nodeUnless (ends : List Token) (read : Parser Node) : Parser Node := do
  if (← nextToken) ∈ ends then return Node.empty else read

/-- Read parts, at most `rounds` of them, until there are no more. A part is told
whether it is the first one. -/
def readAll {α : Type} (read : (first : Bool) → Parser (Option α)) :
    (rounds : Nat) → (first : Bool) → Parser (List α)
  | 0, _ => failure
  | rounds + 1, first => do
    match ← read first with
    | some part => return part :: (← readAll read rounds false)
    | none => return []

def readBlockItem (read : (indentless : Bool) → Parser Node) : Parser (Option Node) := do
  if ← passToken .blockEntry then
    return some (← nodeUnless [.blockEntry, .blockEnd] (read false))
  if ← passToken .blockEnd then return none
  failure

/-- An item of a sequence that is no deeper than the key before it. -/
def readIndentlessItem (read : (indentless : Bool) → Parser Node) : Parser (Option Node) := do
  if ← passToken .blockEntry then
    return some (← nodeUnless [.blockEntry, .key, .value, .blockEnd] (read false))
  return none

def readBlockPair (read : (indentless : Bool) → Parser Node) :
    Parser (Option (Node × Node)) := do
  let part := nodeUnless [.key, .value, .blockEnd] (read true)
  if ← passToken .key then
    let key ← part
    let value ← if ← passToken .value then part else pure Node.empty
    return some (key, value)
  if ← passToken .blockEnd then return none
  failure

/-- Between the parts of a flow collection stand commas; one may stand behind the
last part. The result tells whether there is a further part. -/
def passComma (closing : Token) (first : Bool) : Parser Bool := do
  if ← passToken closing then return false
  if first then return true
  if ← passToken .flowEntry then return !(← passToken closing)
  failure

/-- A pair as an item, behind the mark of its key. Where the key is missing the
token behind it is lost. -/
def readLonePair (read : Parser Node) : Parser Node := do
  let key ←
    if (← nextToken) ∈ [Token.value, .flowEntry, .flowSequenceEnd] then
      skipToken
      pure Node.empty
    else read
  let value ←
    if ← passToken .value then nodeUnless [.flowEntry, .flowSequenceEnd] read
    else pure Node.empty
  return .mapping none none [(key, value)]

def readFlowItem (read : Parser Node) (first : Bool) : Parser (Option Node) := do
  if ← passComma .flowSequenceEnd first then
    if ← passToken .key then return some (← readLonePair read)
    return some (← read)
  return none

def readFlowPair (read : Parser Node) (first : Bool) : Parser (Option (Node × Node)) := do
  if ← passComma .flowMappingEnd first then
    if ← passToken .key then
      let key ← nodeUnless [.value, .flowEntry, .flowMappingEnd] read
      let value ←
        if ← passToken .value then nodeUnless [.flowEntry, .flowMappingEnd] read
        else pure Node.empty
      return some (key, value)
    return some (← read, Node.empty)
  return none

/-- A node of at most `depth` collections one inside the other. Block collections
may not stand inside flow collections. -/
def readNode : (depth : Nat) → (block indentless : Bool) → Parser Node
  | 0, _, _ => failure
  | depth + 1, block, indentless => do
    if let .reference name ← nextToken then
      skipToken
      match (← get).anchors.find? name with
      | some anchor => return .reference anchor
      | none => failure
    let (name, tag) ← readProperties
    let rounds := (← get).tokens.length + 1
    let inBlock (indentless : Bool) : Parser Node := readNode depth true indentless
    let inFlow : Parser Node := readNode depth false false
    match ← nextToken with
    | .scalar text style =>
      skipToken
      return .scalar (← bindAnchor name) tag text style
    | .flowSequenceStart =>
      skipToken
      let anchor ← bindAnchor name
      return .sequence anchor tag (← readAll (readFlowItem inFlow) rounds true)
    | .flowMappingStart =>
      skipToken
      let anchor ← bindAnchor name
      return .mapping anchor tag (← readAll (readFlowPair inFlow) rounds true)
    | token =>
      if indentless && token = .blockEntry then
        let anchor ← bindAnchor name
        return .sequence anchor tag (← readAll (fun _ => readIndentlessItem inBlock) rounds true)
      else if block && token = .blockSequenceStart then
        skipToken
        let anchor ← bindAnchor name
        return .sequence anchor tag (← readAll (fun _ => readBlockItem inBlock) rounds true)
      else if block && token = .blockMappingStart then
        skipToken
        let anchor ← bindAnchor name
        return .mapping anchor tag (← readAll (fun _ => readBlockPair inBlock) rounds true)
      else if name.isSome || tag.isSome then
        return .scalar (← bindAnchor name) tag "" .plain
      else failure

/-! ## Documents -/

/-- The directives before a document. There is one version at most, 1.1 or 1.2,
and a handle is explained once at most. -/
def readDirectives : (rounds : Nat) → (version : Bool) → Parser Unit
  | 0, _ => failure
  | rounds + 1, version => do
    match ← nextToken with
    | .version major minor =>
      if version || major != 1 || (minor != 1 && minor != 2) then failure
      skipToken
      readDirectives rounds true
    | .tagDirective handle stem =>
      let parse ← get
      if parse.handles.has handle then failure
      set { parse with handles := parse.handles.insert handle stem }
      skipToken
      readDirectives rounds version
    | _ => return

/-- Handles that need no directive. -/
def standardHandles : Entries String :=
  [("!", "!"), ("!!", "tag:yaml.org,2002:")]

def Token.isBoundary : Token → Bool
  | version .. | tagDirective .. | documentStart | streamEnd => true
  | _ => false

/-- The root of the only document; a text without one has no root. -/
def readRoot (rounds : Nat) : Parser (Option Node) := do
  if ← passToken .streamEnd then return none
  let root ←
    if (← nextToken).isBoundary then
      readDirectives rounds false
      modify fun parse => { parse with handles := parse.handles.extend standardHandles }
      if !(← passToken .documentStart) then failure
      let token ← nextToken
      if token.isBoundary || token = .documentEnd then pure Node.empty
      else readNode rounds true false
    else
      modify fun parse => { parse with handles := parse.handles.extend standardHandles }
      readNode rounds true false
  let behind := (← get).tokens.dropWhile (· = .documentEnd)
  if behind = [.streamEnd] then return some root
  failure

/-- The tree of a text that holds one document at most. -/
def readTree? (text : List Char) : Option (Option Node) := do
  let tokens ← tokens? text
  return ((← (readRoot (tokens.length + 1)).run ⟨tokens, [], []⟩)).1

end Mustache.Document.Yaml
