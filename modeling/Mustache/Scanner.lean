import Mustache.Cursor
import Mustache.Run

namespace Mustache

/-! A scanner reads a text as a cursor does, from a source that gives one character after the
other and takes none back. A character that was only looked at, or was read in vain, waits in
a buffer and is read from there. -/

structure Scanner where
  source : List Char
  /-- Characters that the source has not given yet. -/
  rest : List Char
  /-- Characters that the source has given and that are still to be read. -/
  buffer : List Char
  /-- Characters that have been read. -/
  offset : Nat
  /-- Bytes that these characters take. -/
  byteOffset : Nat
deriving DecidableEq, Repr

namespace Scanner

variable {Failure : Type}

def start (source : List Char) : Scanner :=
  ⟨source, source, [], 0, 0⟩

/-- All that is still to be read. -/
def stream (scanner : Scanner) : List Char :=
  scanner.buffer ++ scanner.rest

/-- The cursor at the same place. -/
def view (scanner : Scanner) : Cursor :=
  ⟨scanner.source, scanner.stream, scanner.offset, scanner.byteOffset⟩

def count (scanner : Scanner) (character : Char) : Scanner :=
  { scanner with
    offset := scanner.offset + 1
    byteOffset := scanner.byteOffset + character.utf8Size }

def next? (scanner : Scanner) : Option (Char × Scanner) :=
  match scanner.buffer, scanner.rest with
  | character :: buffer, _ => some (character, { scanner with buffer }.count character)
  | [], character :: rest => some (character, { scanner with rest }.count character)
  | [], [] => none

/-- Read the next character, if there is one, and forget it. -/
def pass (scanner : Scanner) : Scanner :=
  (scanner.next?.map Prod.snd).getD scanner

/-- Look at the next character, which waits in the buffer from then on. -/
def peek (scanner : Scanner) : Option Char × Scanner :=
  match scanner.buffer, scanner.rest with
  | character :: _, _ => (some character, scanner)
  | [], character :: rest => (some character, { scanner with buffer := [character], rest })
  | [], [] => (none, scanner)

def atEnd (scanner : Scanner) : Bool × Scanner :=
  let (next, scanner) := scanner.peek
  (next.isNone, scanner)

/-- Give back characters, which are read again in their order. -/
def putBack (scanner : Scanner) (characters : List Char) : Run Failure Scanner := do
  Run.rely (.covers scanner.offset characters.length)
  Run.rely (.covers scanner.byteOffset (Text.byteLength characters))
  return { scanner with
    buffer := characters ++ scanner.buffer
    offset := scanner.offset - characters.length
    byteOffset := scanner.byteOffset - Text.byteLength characters }

/-- Read a mark character by character, where `read` are its characters so far. At the first
one that differs, all of them are given back. -/
def tryReadFrom (read : List Char) : List Char → Scanner → Run Failure (Bool × Scanner)
  | [], scanner => return (true, scanner)
  | expected :: mark, scanner =>
    match scanner.next? with
    | some (character, after) =>
      if character = expected then tryReadFrom (read ++ [character]) mark after
      else return (false, ← after.putBack (read ++ [character]))
    | none => return (false, ← scanner.putBack read)

def tryRead (scanner : Scanner) (mark : List Char) : Run Failure (Bool × Scanner) :=
  tryReadFrom [] mark scanner

def blankLoop : Loop Failure (Nat × Scanner) (Nat × Scanner) where
  place := fun (_, scanner) => scanner.offset
  round := fun (blanks, scanner) => do
    let (next, scanner) := scanner.peek
    match next with
    | some character =>
      if Text.isBlank character then return .goesOn (blanks + 1, scanner.pass)
      else return .ends (blanks, scanner)
    | none => return .ends (blanks, scanner)

/-- The result is the number of blanks. -/
def skipBlanks (scanner : Scanner) : Run Failure (Nat × Scanner) :=
  blankLoop.run (0, scanner)

def markLoop (mark : List Char) :
    Loop Failure (List Char × Scanner) (List Char × Bool × Scanner) where
  place := fun (_, scanner) => scanner.offset
  round := fun (text, scanner) => do
    let (found, scanner) ← scanner.tryRead mark
    if found then return .ends (text, true, scanner)
    match scanner.next? with
    | some (character, scanner) => return .goesOn (text ++ [character], scanner)
    | none => return .ends (text, false, scanner)

/-- Read the text before a mark and the mark, or all if there is no mark. The result tells
whether there is one. -/
def readTo (scanner : Scanner) (mark : List Char) : Run Failure (List Char × Bool × Scanner) :=
  (markLoop mark).run ([], scanner)

def readUntil (scanner : Scanner) (mark : List Char) :
    Run Failure (Option (List Char) × Scanner) := do
  let (text, found, scanner) ← scanner.readTo mark
  return (if found then some text else none, scanner)

/-- The source text between two byte positions, empty where there is none. -/
def slice (scanner : Scanner) (first last : Nat) : List Char :=
  (Text.slice? scanner.source first last).getD []

/-- The place of the character behind the first `offset` characters. -/
def position (scanner : Scanner) (offset : Nat) : Position :=
  (Cursor.start scanner.source).position offset

/-- The third character is none of the mark, so all three are read again. -/
example :
    (start "a-b".toList).tryRead "a->".toList (fun _ => false) =
      (some (.ok (false, ⟨"a-b".toList, [], "a-b".toList, 0, 0⟩)) :
        Option (Except (Halt Empty) (Bool × Scanner))) := by
  rfl

end Scanner

end Mustache
