import Mustache.Text.Blank
import Mustache.Text.Bytes
import Mustache.Text.Occurrence

namespace Mustache

/-! A cursor reads a text from its start to its end. What it stands before is
its view, `unread`; the two offsets count what lies behind it. -/

structure Cursor where
  source : List Char
  unread : List Char
  /-- Characters behind the cursor. -/
  offset : Nat
  /-- Bytes that these characters take. -/
  byteOffset : Nat
deriving DecidableEq, Repr

/-- A place in a text, both numbers counted from one. -/
structure Position where
  line : Nat
  column : Nat
deriving DecidableEq, Repr

namespace Cursor

def start (source : List Char) : Cursor :=
  ⟨source, source, 0, 0⟩

/-- Read a number of characters, or all if there are fewer. -/
def advance (cursor : Cursor) (count : Nat) : Cursor :=
  let passed := cursor.unread.take count
  { cursor with
    unread := cursor.unread.drop count
    offset := cursor.offset + passed.length
    byteOffset := cursor.byteOffset + Text.byteLength passed }

def finish (cursor : Cursor) : Cursor :=
  cursor.advance cursor.unread.length

def peek? (cursor : Cursor) : Option Char :=
  cursor.unread.head?

def atEnd (cursor : Cursor) : Bool :=
  cursor.unread.isEmpty

def next? (cursor : Cursor) : Option (Char × Cursor) :=
  cursor.peek?.map fun character => (character, cursor.advance 1)

def putBack (cursor : Cursor) (characters : List Char) : Cursor :=
  { cursor with
    unread := characters ++ cursor.unread
    offset := cursor.offset - characters.length
    byteOffset := cursor.byteOffset - Text.byteLength characters }

def tryRead? (cursor : Cursor) (mark : List Char) : Option Cursor :=
  if mark.isPrefixOf cursor.unread then some (cursor.advance mark.length) else none

def blanks (cursor : Cursor) : Nat :=
  (cursor.unread.takeWhile Text.isBlank).length

def skipBlanks (cursor : Cursor) : Cursor :=
  cursor.advance cursor.blanks

/-- Read up to the first occurrence of a mark and the mark itself. The result
is the text before the mark; without a mark there is none. -/
def readUntil? (cursor : Cursor) (mark : List Char) : Option (List Char × Cursor) :=
  (Text.splitAt? mark cursor.unread).map fun (before, _) =>
    (before, cursor.advance (before.length + mark.length))

/-- Read up to a mark and the mark itself, or all if there is no such mark. The
text before the mark is the result. -/
def seek (cursor : Cursor) (mark : List Char) : Option (List Char) × Cursor :=
  match cursor.readUntil? mark with
  | some (text, after) => (some text, after)
  | none => (none, cursor.finish)

/-- The source text between two byte positions, empty where there is none. -/
def slice (cursor : Cursor) (first last : Nat) : List Char :=
  (Text.slice? cursor.source first last).getD []

/-- The place of the character behind the first `offset` characters. -/
def position (cursor : Cursor) (offset : Nat) : Position :=
  (cursor.source.take offset).foldl
    (fun place character =>
      if character = '\n' then ⟨place.line + 1, 1⟩ else ⟨place.line, place.column + 1⟩)
    ⟨1, 1⟩

example : (start "ab\ncd".toList).position 4 = ⟨2, 2⟩ := by decide

example : ((start "éa\x7d\x7db".toList).readUntil? ['}', '}']).map (·.2.byteOffset) = some 5 := by
  decide

/-! ## What a step reads

`Passes` ties all that a cursor holds to the one text that a step reads, and
steps follow one another by `trans`. -/

/-- The second cursor stands behind `text`, which comes first for the other. -/
structure Passes (cursor : Cursor) (text : List Char) (after : Cursor) : Prop where
  unread : cursor.unread = text ++ after.unread
  source : after.source = cursor.source
  offset : after.offset = cursor.offset + text.length
  byteOffset : after.byteOffset = cursor.byteOffset + Text.byteLength text

namespace Passes

variable {cursor middle after : Cursor} {text first second : List Char}

theorem refl (cursor : Cursor) : Passes cursor [] cursor :=
  ⟨rfl, rfl, rfl, rfl⟩

theorem trans (one : Passes cursor first middle) (two : Passes middle second after) :
    Passes cursor (first ++ second) after where
  unread := by rw [one.unread, two.unread, List.append_assoc]
  source := two.source.trans one.source
  offset := by rw [two.offset, one.offset, List.length_append, Nat.add_assoc]
  byteOffset := by
    rw [two.byteOffset, one.byteOffset, Text.byteLength_append, Nat.add_assoc]

theorem length_unread (passes : Passes cursor text after) :
    cursor.unread.length = text.length + after.unread.length := by
  rw [passes.unread, List.length_append]

end Passes

@[simp] theorem unread_start (source : List Char) : (start source).unread = source := rfl

theorem passes_advance (cursor : Cursor) (count : Nat) :
    Passes cursor (cursor.unread.take count) (cursor.advance count) :=
  ⟨(List.take_append_drop count cursor.unread).symm, rfl, rfl, rfl⟩

theorem passes_of_unread {cursor : Cursor} {text behind : List Char}
    (unread : cursor.unread = text ++ behind) :
    Passes cursor text (cursor.advance text.length) := by
  have passes := cursor.passes_advance text.length
  rwa [unread, List.take_left] at passes

theorem passes_tryRead? {cursor after : Cursor} {mark : List Char}
    (read : cursor.tryRead? mark = some after) : Passes cursor mark after := by
  rw [tryRead?] at read
  split at read
  · next starts =>
    rcases List.isPrefixOf_iff_prefix.mp starts with ⟨tail, equal⟩
    rcases Option.some.inj read with rfl
    exact passes_of_unread equal.symm
  · simp at read

theorem passes_readUntil? {cursor after : Cursor} {mark text : List Char}
    (read : cursor.readUntil? mark = some (text, after)) :
    Passes cursor (text ++ mark) after := by
  rcases Option.map_eq_some_iff.mp read with ⟨⟨before, behind⟩, found, equal⟩
  rcases Prod.mk.inj equal with ⟨rfl, rfl⟩
  rw [← List.length_append]
  exact passes_of_unread (Text.eq_of_splitAt? found)

theorem passes_skipBlanks (cursor : Cursor) :
    Passes cursor (cursor.unread.takeWhile Text.isBlank) cursor.skipBlanks :=
  passes_of_unread List.takeWhile_append_dropWhile.symm

end Cursor

end Mustache
