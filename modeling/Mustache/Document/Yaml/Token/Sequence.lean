import Mustache.Document.Yaml.Token.Layout
import Mustache.Document.Yaml.Token.Reading

namespace Mustache.Document.Yaml

/-! All tokens of a document. -/

/-- Pass blanks, comments and line breaks. A tab may not stand where a key may
start. Behind a line break a key may start. -/
def skipToToken : Scanner Unit := do
  let rounds := (← getThe Place).rest.length + 2
  let flow ← inFlow
  let rec pass : Nat → Scanner Unit
    | 0 => failure
    | rounds + 1 => do
      if (← column) == 0 && (← nextIs '\uFEFF') then skip 1
      let tabs := flow || !(← get).keyAllowed
      let _ ← readWhile fun character => character == ' ' || (tabs && character == '\t')
      if ← nextIs '#' then
        let _ ← readWhile (!isBreak ·)
      if ← nextIsBreak then
        let _ ← readBreak
        if !flow then allowKey true
        pass rounds
  pass rounds

def single (token : Token) : Scanner Unit := do
  skip 1
  emit token

def startFlow (token : Token) : Scanner Unit := do
  saveKey
  modify fun scan => { scan with keys := none :: scan.keys }
  allowKey true
  single token

def endFlow (token : Token) : Scanner Unit := do
  dropKey
  modify fun scan =>
    { scan with keys := if 1 < scan.keys.length then scan.keys.drop 1 else scan.keys }
  allowKey false
  single token

/-- A hyphen before an item or a question mark before a key starts a block
collection, where a key may start. -/
def blockMark (start token : Token) (allowed : Bool) : Scanner Unit := do
  if !(← inFlow) then
    if !(← get).keyAllowed then failure
    openBlock (← column) none start
  dropKey
  allowKey allowed
  single token

/-- A colon makes a key of what started at the last place where a key could. -/
def valueMark : Scanner Unit := do
  match (← get).keys.head?.join with
  | some start =>
    modify fun scan =>
      { scan with tokens := scan.tokens.insertIdxIfInBounds start.tokens .key }
    openBlock start.place.column (some start.tokens) .blockMappingStart
    setKey none
    allowKey false
  | none =>
    if !(← inFlow) then
      if !(← get).keyAllowed then failure
      openBlock (← column) none .blockMappingStart
    allowKey (!(← inFlow))
  single .value

/-- A token that may be a key or the start of one. -/
def keyToken (read : Reader Token) : Scanner Unit := do
  saveKey
  allowKey false
  emit (← read)

def plainToken : Scanner Unit := do
  saveKey
  allowKey false
  let (text, broken) ← readPlain (← inFlow) ((← get).indent + 1).toNat
  if broken then allowKey true
  emit (.scalar text .plain)

def documentMark (token : Token) : Scanner Unit := do
  closeBlocks (-1)
  dropKey
  allowKey false
  skip 3
  emit token

/-- Whether a plain scalar may start with a character before another one. -/
def startsPlain (flow : Bool) (character : Char) (behind : Option Char) : Bool :=
  if character == '-' then !behind.any isBlank
  else if character == '?' || character == ':' then !flow && !isGap behind
  else !(isBlank character || ",[]\x7b\x7d#&*!|>'\"%@`".toList.contains character)

/-- Read the next token; the result tells whether it was the last one. -/
def step : Scanner Bool := do
  skipToToken
  dropStaleKeys
  closeBlocks (← column)
  let flow ← inFlow
  let some character ← peek |
    closeBlocks (-1)
    dropKey
    emit .streamEnd
    return true
  let behind ← peekAt 1
  if (← column) == 0 && character == '%' then
    closeBlocks (-1)
    dropKey
    allowKey false
    skip 1
    emit (← readDirective)
  else if ← atDocumentMark '-' then documentMark .documentStart
  else if ← atDocumentMark '.' then documentMark .documentEnd
  else if character == '[' then startFlow .flowSequenceStart
  else if character == '{' then startFlow .flowMappingStart
  else if character == ']' then endFlow .flowSequenceEnd
  else if character == '}' then endFlow .flowMappingEnd
  else if character == ',' then
    dropKey
    allowKey true
    single .flowEntry
  else if character == '-' && isGap behind then blockMark .blockSequenceStart .blockEntry true
  else if character == '?' && (flow || isGap behind) then
    blockMark .blockMappingStart .key (!flow)
  else if character == ':' && (flow || isGap behind) then valueMark
  else if character == '*' then keyToken (do skip 1; return .reference (← readName))
  else if character == '&' then keyToken (do skip 1; return .anchor (← readName))
  else if character == '!' then
    keyToken readTag
    if !(flow && (← nextIs ',')) && !(← nextIsGap) then failure
  else if (character == '|' || character == '>') && !flow then
    dropKey
    allowKey true
    skip 1
    let text ← readBlock (character == '>') ((← get).indent + 1).toNat
    emit (.scalar text (if character == '|' then .literal else .other))
  else if character == '\'' || character == '"' then
    keyToken (do skip 1; return .scalar (← readQuoted (character == '\'')) .other)
  else if startsPlain flow character behind then plainToken
  else failure
  return false

def scanAll : (rounds : Nat) → Scanner Unit
  | 0 => failure
  | rounds + 1 => do
    if !(← step) then scanAll rounds

/-- The tokens of a text; none if it is not made of such. -/
def tokens? (text : List Char) : Option (List Token) :=
  if text.all isAllowed then
    let scan : Scan := ⟨#[], -1, [], true, [none]⟩
    ((scanAll (text.length + 2)).run scan |>.run ⟨text, 0, 0, 0⟩).map fun ((_, scan), _) =>
      scan.tokens.toList
  else none

end Mustache.Document.Yaml
