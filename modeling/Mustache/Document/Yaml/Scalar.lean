import Mustache.Document.Json
import Mustache.Document.Yaml.Reader

namespace Mustache.Document.Yaml

/-! The four ways in which the text of a scalar is written. A single line break
inside a quoted or plain scalar reads as a space, and of several breaks the
first is dropped. -/

/-- What was read between two words of a scalar. -/
structure Gap where
  blanks : List Char
  /-- The first line break and those behind it. -/
  firstBreak : List Char
  furtherBreaks : List Char
  broken : Bool

def Gap.none : Gap :=
  ⟨[], [], [], false⟩

def Gap.text (gap : Gap) : List Char :=
  if gap.broken then
    if gap.firstBreak == ['\n'] then
      if gap.furtherBreaks.isEmpty then [' '] else gap.furtherBreaks
    else gap.firstBreak ++ gap.furtherBreaks
  else gap.blanks

/-- Read blanks and line breaks. In plain scalars a tab must not stand before the
column `indent` of a new line. -/
def readGap (indent : Nat) (start : Gap) : Reader Gap :=
  repeatReading (fun gap => do
    if ← nextIsBlank then
      if gap.broken && (← column) < indent && (← nextIs '\t') then failure
      let character ← peek
      skip 1
      return .inl (if gap.broken then gap
        else { gap with blanks := gap.blanks ++ character.toList })
    else if ← nextIsBreak then
      let text ← readBreak
      return .inl (if gap.broken then { gap with furtherBreaks := gap.furtherBreaks ++ text }
        else ⟨[], text, [], true⟩)
    else return .inr gap) start

/-! ## Quoted scalars -/

/-- The characters that letters behind a backslash stand for, and the number of
hexadecimal digits behind the other letters. -/
def escapeOf? (letter : Char) : Option (Char ⊕ Nat) :=
  match letter with
  | '0' => some (.inl '\x00')
  | 'a' => some (.inl '\x07')
  | 'b' => some (.inl '\x08')
  | 't' | '\t' => some (.inl '\t')
  | 'n' => some (.inl '\n')
  | 'v' => some (.inl '\x0b')
  | 'f' => some (.inl '\x0c')
  | 'r' => some (.inl '\r')
  | 'e' => some (.inl '\x1b')
  | ' ' => some (.inl ' ')
  | '"' => some (.inl '"')
  | '/' => some (.inl '/')
  | '\\' => some (.inl '\\')
  | 'N' => some (.inl '\u0085')
  | '_' => some (.inl '\u00a0')
  | 'L' => some (.inl '\u2028')
  | 'P' => some (.inl '\u2029')
  | 'x' => some (.inr 2)
  | 'u' => some (.inr 4)
  | 'U' => some (.inr 8)
  | _ => none

def readEscape : Reader Char := do
  let some letter ← peek | failure
  match escapeOf? letter with
  | none => failure
  | some (.inl character) =>
    skip 1
    return character
  | some (.inr count) =>
    skip 1
    let digits := (← get).rest.take count
    let some code := if digits.length == count then hexNumber? digits else none | failure
    let some character := character? code | failure
    skip count
    return character

/-- A word of a quoted scalar up to its quote, a gap or an escaped line break.
`text` is read backwards. The result tells whether a line break was escaped. -/
def readQuotedWord (single : Bool) (text : List Char) : Reader (List Char × Bool) :=
  let quote := if single then '\'' else '"'
  repeatReading (fun text => do
    if ← nextIsGap then return .inr (text, false)
    let some character ← peek | failure
    let behind ← peekAt 1
    if character == quote then
      if single && behind == some quote then
        skip 2
        return .inl (quote :: text)
      else return .inr (text, false)
    else if !single && character == '\\' then
      skip 1
      if behind.any isBreak then
        let _ ← readBreak
        return .inr (text, true)
      else return .inl ((← readEscape) :: text)
    else
      skip 1
      return .inl (character :: text)) text

/-- A scalar between quotes, from behind its first quote. -/
def readQuoted (single : Bool) : Reader String :=
  repeatReading (fun text => do
    if ← atDocumentBoundary then failure
    if ← atEnd then failure
    let (text, escaped) ← readQuotedWord single text
    if ← nextIs (if single then '\'' else '"') then
      skip 1
      return .inr (String.ofList text.reverse)
    let gap ← readGap 0 { Gap.none with broken := escaped }
    return .inl (gap.text.reverse ++ text)) []

/-! ## Plain scalars -/

def isFlowMark (character : Char) : Bool :=
  character == ',' || character == '[' || character == ']' || character == '{' || character == '}'

def readPlainWord (inFlow : Bool) : Reader (List Char) :=
  repeatReading (fun word => do
    if ← nextIsGap then return .inr word.reverse
    let some character ← peek | failure
    let behind ← peekAt 1
    if character == ':' then
      if inFlow && behind.any (fun next => isFlowMark next || next == '?') then failure
      if isGap behind then return .inr word.reverse
    if inFlow && isFlowMark character then return .inr word.reverse
    skip 1
    return .inl (character :: word)) []

/-- A plain scalar, and whether there is a line break between it and the next
character. Its lines start at column `indent` or behind it. -/
def readPlain (inFlow : Bool) (indent : Nat) : Reader (String × Bool) := do
  let (text, broken) ← repeatReading (fun (text, gap) => do
    if (← atDocumentBoundary) || (← nextIs '#') then return .inr (text, gap.broken)
    let word ← readPlainWord inFlow
    let (text, gap) := if word.isEmpty then (text, gap) else (text ++ gap.text ++ word, Gap.none)
    if !((← nextIsBlank) || (← nextIsBreak)) then return .inr (text, gap.broken)
    let gap ← readGap indent gap
    if !inFlow && (← column) < indent then return .inr (text, gap.broken)
    return .inl (text, gap)) (([] : List Char), Gap.none)
  return (String.ofList text, broken)

/-! ## Block scalars -/

/-- The line breaks before the next line of a block scalar. An indentation that
is not known yet is taken from the deepest of these lines; it is at least one
deeper than `outer`. -/
def readBlockBreaks (indent : Option Nat) (outer : Nat) : Reader (Nat × List Char) :=
  repeatReading (fun (deepest, breaks) => do
    let limit (position : Nat) : Bool :=
      match indent with
      | some bound => position < bound
      | none => true
    let start ← column
    let blanks := ((← get).rest.takeWhile (· == ' ')).length
    skip (match indent with
      | some bound => min blanks (bound - start)
      | none => blanks)
    let here ← column
    let deepest := max deepest here
    if limit here && (← nextIs '\t') then failure
    if ← nextIsBreak then
      return .inl (deepest, breaks ++ (← readBreak))
    else return .inr (indent.getD (max deepest (max outer 1)), breaks)) (0, ([] : List Char))

/-- What is done with the line breaks at the end of a block scalar. -/
inductive Chomping where
  | strip
  | clip
  | keep
deriving DecidableEq

def readChomping : Reader (Option Chomping) := do
  if ← nextIs '+' then skip 1; return some .keep
  if ← nextIs '-' then skip 1; return some .strip
  return none

def readIncrement : Reader (Option Nat) := do
  match ← peek with
  | some digit =>
    if digit.isDigit then
      if digit == '0' then failure
      skip 1
      return some (digit.toNat - '0'.toNat)
    else return none
  | none => return none

/-- Pass blanks and a comment up to the end of a line. -/
def skipToLineEnd : Reader Unit := do
  let _ ← readWhile isBlank
  if ← nextIs '#' then
    let _ ← readWhile (!isBreak ·)
  if !((← nextIsBreak) || (← atEnd)) then failure
  let _ ← readBreak

structure BlockText where
  text : List Char
  lastBreak : List Char
  breaks : List Char
  /-- Whether the last line started with a blank. -/
  indented : Bool

/-- A block scalar from behind its first character. `outer` is the least column
that is inside the collection around it. In a folded scalar a single break
between two lines that start with no blank reads as a space. -/
def readBlock (folded : Bool) (outer : Nat) : Reader String := do
  let first ← readChomping
  let increment ← readIncrement
  let second ← if first.isNone && increment.isSome then readChomping else pure none
  let chomping := (first.or second).getD .clip
  skipToLineEnd
  let indent := increment.map fun count => (outer - 1) + count
  let (indent, breaks) ← readBlockBreaks indent outer
  repeatReading (fun (block : BlockText) => do
    if (← column) != indent || (← atEnd) then
      let tail := match chomping with
        | .strip => []
        | .clip => block.lastBreak
        | .keep => block.lastBreak ++ block.breaks
      return .inr (String.ofList (block.text ++ tail))
    let blank ← nextIsBlank
    let between :=
      if folded && block.lastBreak == ['\n'] && !block.indented && !blank then
        if block.breaks.isEmpty then [' '] else block.breaks
      else block.lastBreak ++ block.breaks
    let line ← readWhile (!isBreak ·)
    let lastBreak ← readBreak
    let (_, breaks) ← readBlockBreaks (some indent) outer
    return .inl ⟨block.text ++ between ++ line, lastBreak, breaks, blank⟩) ⟨[], [], breaks, false⟩

end Mustache.Document.Yaml
