import Mustache.Scanner
import Mustache.Token.Reading

namespace Mustache

namespace Scanner

/-! ## Reading one tag

The readers of a tag, character by character. Each of them leaves the scanner where the
reader of the same name leaves a cursor. -/

def readBody (scanner : Scanner) (markers : Markers) : Run Problem (List Char × Scanner) := do
  let (text, scanner) ← scanner.readUntil markers.closing
  match text with
  | some body => return (body, scanner)
  | none => Run.fail .unclosedTag

def readName (scanner : Scanner) (markers : Markers) : Run Problem (String × Scanner) := do
  let (body, scanner) ← scanner.readBody markers
  let name ← Run.ofExcept (Cursor.checkName body)
  return (name, scanner)

def tripleLoop (closing : List Char) :
    Loop Problem (List Char × Scanner) (String × Scanner) where
  place := fun (_, scanner) => scanner.offset
  round := fun (body, scanner) => do
    let (ended, scanner) ← scanner.tryRead ('}' :: closing)
    if ended then
      let name ← Run.ofExcept (Cursor.checkName body)
      return .ends (name, scanner)
    let (closed, scanner) ← scanner.tryRead closing
    if closed then Run.fail (.missingBrace (String.ofList closing))
    match scanner.next? with
    | some (character, scanner) => return .goesOn (body ++ [character], scanner)
    | none => Run.fail .unclosedTag

/-- A brace and the closing mark are tried first, then the closing mark alone. -/
def readTripleName (scanner : Scanner) (markers : Markers) : Run Problem (String × Scanner) :=
  (tripleLoop markers.closing).run ([], scanner)

def openingLoop : Loop Problem (List Char × Scanner) (List Char × Scanner) where
  place := fun (_, scanner) => scanner.offset
  round := fun (mark, scanner) =>
    match scanner.next? with
    | some (character, scanner) =>
      if Text.isBlank character then return .ends (mark, scanner)
      else return .goesOn (mark ++ [character], scanner)
    | none => Run.fail .unclosedRedelimit

/-- The blank behind the first of two new marks is read as well. -/
def readOpening (scanner : Scanner) : Run Problem (List Char × Scanner) :=
  openingLoop.run ([], scanner)

def closingLoop : Loop Problem (List Char × Scanner) (List Char × Scanner) where
  place := fun (_, scanner) => scanner.offset
  round := fun (mark, scanner) =>
    let (next, scanner) := scanner.peek
    match next with
    | some character =>
      if Text.isBlank character || character == '=' then return .ends (mark, scanner)
      else return .goesOn (mark ++ [character], scanner.pass)
    | none => Run.fail .unclosedRedelimit

/-- The character behind the second of two new marks is only looked at. -/
def readClosing (scanner : Scanner) : Run Problem (List Char × Scanner) :=
  closingLoop.run ([], scanner)

/-- Read the equals sign behind new marks, if it is there. -/
def passSign (scanner : Scanner) : Scanner :=
  let (next, scanner) := scanner.peek
  if next = some '=' then scanner.pass else scanner

def readRedelimit (scanner : Scanner) (markers : Markers) :
    Run Problem (Markers × Scanner) := do
  let (_, scanner) ← scanner.skipBlanks
  let (opening, scanner) ← scanner.readOpening
  let (_, scanner) ← scanner.skipBlanks
  let (closing, scanner) ← scanner.readClosing
  let (_, scanner) ← scanner.skipBlanks
  let (_, scanner) ← scanner.passSign.skipBlanks
  let (closed, scanner) ← scanner.tryRead markers.closing
  if !closed then Run.fail (.malformedRedelimit (String.ofList markers.closing))
  match Markers.of? opening closing with
  | some next => return (next, scanner)
  | none => Run.fail .missingMark

def readNamed (scanner : Scanner) (markers : Markers) (content : String → TagContent) :
    Run Problem (TagContent × Scanner) := do
  let (name, scanner) ← scanner.readName markers
  return (content name, scanner)

def readVerbatim (scanner : Scanner) (markers : Markers) (kind : LeafKind) :
    Run Problem (TagContent × Scanner) := do
  let (body, scanner) ← scanner.readBody markers
  return (.leaf kind (String.ofList body), scanner)

/-- Read on behind the sigil. A character that is no sigil is given back. -/
def readSigil (scanner : Scanner) (markers : Markers) (sigil : Char) :
    Run Problem (TagContent × Scanner) :=
  match sigil with
  | '%' => scanner.readVerbatim markers .pragma
  | '!' => scanner.readVerbatim markers .comment
  | '#' => scanner.readNamed markers (.opening .section)
  | '^' => scanner.readNamed markers (.opening .inverted)
  | '/' => scanner.readNamed markers .closing
  | '&' => scanner.readNamed markers (.leaf .unescaped)
  | '>' => scanner.readNamed markers (.leaf .inclusion)
  | '=' => do
    let (next, scanner) ← scanner.readRedelimit markers
    return (.redelimit next, scanner)
  | '{' => do
    let (name, scanner) ← scanner.readTripleName markers
    return (.leaf .triple name, scanner)
  | other => do
    let scanner ← scanner.putBack [other]
    scanner.readNamed markers (.leaf .name)

def readTag (scanner : Scanner) (markers : Markers) : Run Problem (TagContent × Scanner) := do
  let (_, scanner) ← scanner.skipBlanks
  match scanner.next? with
  | some (sigil, scanner) => scanner.readSigil markers sigil
  | none => Run.fail .unclosedTag

end Scanner

end Mustache
