namespace Mustache.Document.Yaml

/-! Reading the characters of a YAML document. A reader knows its line and
column, and it fails on what is no YAML. -/

/-- The characters that are left, and where they start. -/
structure Place where
  rest : List Char
  index : Nat
  line : Nat
  column : Nat

abbrev Reader := StateT Place Option

def isBreak (character : Char) : Bool :=
  character == '\n' || character == '\r' || character == '\u0085' || character == '\u2028' ||
    character == '\u2029'

def isBlank (character : Char) : Bool :=
  character == ' ' || character == '\t'

/-- Characters of the names of anchors, handles and directives. -/
def isWordCharacter (character : Char) : Bool :=
  character.isAlphanum || character == '_' || character == '-'

/-- Whether a character may stand in a document at all. -/
def isAllowed (character : Char) : Bool :=
  let point := character.toNat
  character == '\t' || character == '\n' || character == '\r' ||
    (0x20 ≤ point && point ≤ 0x7E) || point == 0x85 || (0xA0 ≤ point && point ≤ 0xFFFD) ||
    0x10000 ≤ point

/-- A blank, a line break or the end. -/
def isGap : Option Char → Bool
  | none => true
  | some character => isBlank character || isBreak character

def peekAt (distance : Nat) : Reader (Option Char) :=
  return (← get).rest[distance]?

def peek : Reader (Option Char) :=
  peekAt 0

def nextIs (character : Char) : Reader Bool :=
  return (← peek) == some character

def nextIsBreak : Reader Bool :=
  return (← peek).any isBreak

def nextIsBlank : Reader Bool :=
  return (← peek).any isBlank

def nextIsGap : Reader Bool :=
  return isGap (← peek)

def atEnd : Reader Bool :=
  return (← get).rest.isEmpty

def column : Reader Nat :=
  return (← get).column

/-- Pass a character that is no line break. -/
def skip (count : Nat) : Reader Unit :=
  modify fun place =>
    { place with
      rest := place.rest.drop count
      index := place.index + count
      column := place.column + count }

/-- Pass a line break. A carriage return and a line feed are one break, and all
breaks but the separators of Unicode read as a line feed. -/
def readBreak : Reader (List Char) := do
  let place ← get
  let next (length : Nat) (rest : List Char) : Place :=
    ⟨rest, place.index + length, place.line + 1, 0⟩
  match place.rest with
  | '\r' :: '\n' :: rest => set (next 2 rest); return ['\n']
  | character :: rest =>
    if character == '\u2028' || character == '\u2029' then set (next 1 rest); return [character]
    else if isBreak character then set (next 1 rest); return ['\n']
    else return []
  | [] => return []

/-- The next characters that have a property. No line break has it. -/
def readWhile (holds : Char → Bool) : Reader (List Char) := do
  let place ← get
  let text := place.rest.takeWhile holds
  skip text.length
  return text

/-- Repeat a step until it has a result, at most `rounds` times. -/
def repeatStep {σ α : Type} (step : σ → Reader (σ ⊕ α)) : (rounds : Nat) → σ → Reader α
  | 0, _ => failure
  | rounds + 1, state => do
    match ← step state with
    | .inl next => repeatStep step rounds next
    | .inr result => return result

/-- Repeat a step that reads something each time. -/
def repeatReading {σ α : Type} (step : σ → Reader (σ ⊕ α)) (state : σ) : Reader α := do
  repeatStep step ((← get).rest.length + 2) state

/-- Whether the next three characters at the start of a line are `mark` thrice,
with a gap behind them. -/
def atDocumentMark (mark : Char) : Reader Bool := do
  let place ← get
  return place.column == 0 && place.rest.take 3 == [mark, mark, mark] && isGap place.rest[3]?

def atDocumentBoundary : Reader Bool :=
  return (← atDocumentMark '-') || (← atDocumentMark '.')

end Mustache.Document.Yaml
