import Mustache.Token

namespace Mustache

namespace Cursor

/-! ## Reading one tag

Each reader stands behind what it has recognised so far and leaves the cursor
behind the closing mark. -/

def readBody (cursor : Cursor) (markers : Markers) : Except Problem (List Char × Cursor) :=
  match cursor.readUntil? markers.closing with
  | some (body, after) => .ok (body, after)
  | none => .error .unclosedTag

/-- A name is the text without the blanks around it, and something is left. -/
def checkName (body : List Char) : Except Problem String :=
  match Text.trimBlanks body with
  | [] => .error .missingName
  | name => .ok (String.ofList name)

def readName (cursor : Cursor) (markers : Markers) : Except Problem (String × Cursor) := do
  let (body, after) ← cursor.readBody markers
  let name ← checkName body
  return (name, after)

/-- The name of a tag with three braces ends at a brace before the closing mark.
The first closing mark ends the tag, with or without that brace. -/
def readTripleName (cursor : Cursor) (markers : Markers) : Except Problem (String × Cursor) :=
  match cursor.readUntil? ('}' :: markers.closing), cursor.readUntil? markers.closing with
  | _, none => .error .unclosedTag
  | none, some _ => .error (.missingBrace (String.ofList markers.closing))
  | some (body, after), some (shorter, _) =>
    if body.length ≤ shorter.length then do
      let name ← checkName body
      return (name, after)
    else .error (.missingBrace (String.ofList markers.closing))

/-- The characters up to the first one with a property, and the cursor before
that character; none if no character has it. -/
def readBefore? (cursor : Cursor) (stops : Char → Bool) : Option (List Char × Cursor) :=
  let text := cursor.unread.takeWhile (!stops ·)
  let after := cursor.advance text.length
  if after.atEnd then none else some (text, after)

/-- The two new marks stand between equals signs; the second sign may be left
out. The new marks are in force behind the closing mark. -/
def readRedelimit (cursor : Cursor) (markers : Markers) :
    Except Problem (Markers × Cursor) := do
  let some (opening, cursor) := cursor.skipBlanks.readBefore? Text.isBlank
    | .error .unclosedRedelimit
  let some (closing, cursor) :=
      cursor.skipBlanks.readBefore? (fun character => Text.isBlank character || character == '=')
    | .error .unclosedRedelimit
  let cursor := cursor.skipBlanks
  let cursor := (cursor.tryRead? ['=']).getD cursor
  let some cursor := cursor.skipBlanks.tryRead? markers.closing
    | .error (.malformedRedelimit (String.ofList markers.closing))
  let some next := Markers.of? opening closing
    | .error .missingMark
  return (next, cursor)

def readNamed (cursor : Cursor) (markers : Markers) (content : String → TagContent) :
    Except Problem (TagContent × Cursor) := do
  let (name, after) ← cursor.readName markers
  return (content name, after)

def readVerbatim (cursor : Cursor) (markers : Markers) (kind : LeafKind) :
    Except Problem (TagContent × Cursor) := do
  let (body, after) ← cursor.readBody markers
  return (.leaf kind (String.ofList body), after)

/-- Read on behind the sigil, the first character of a tag. Any character that
is no sigil already belongs to a name. -/
def readSigil (cursor behind : Cursor) (markers : Markers) (sigil : Char) :
    Except Problem (TagContent × Cursor) :=
  match sigil with
  | '%' => behind.readVerbatim markers .pragma
  | '!' => behind.readVerbatim markers .comment
  | '#' => behind.readNamed markers (.opening .section)
  | '^' => behind.readNamed markers (.opening .inverted)
  | '/' => behind.readNamed markers .closing
  | '&' => behind.readNamed markers (.leaf .unescaped)
  | '>' => behind.readNamed markers (.leaf .inclusion)
  | '=' => (behind.readRedelimit markers).map fun (next, after) => (.redelimit next, after)
  | '{' => (behind.readTripleName markers).map fun (name, after) => (.leaf .triple name, after)
  | _ => cursor.readNamed markers (.leaf .name)

def readTag (cursor : Cursor) (markers : Markers) : Except Problem (TagContent × Cursor) :=
  match cursor.skipBlanks.next? with
  | some (sigil, behind) => cursor.skipBlanks.readSigil behind markers sigil
  | none => .error .unclosedTag

/-! ## What the readers pass -/

variable {cursor after : Cursor} {markers : Markers}

theorem passes_readBody {body : List Char}
    (read : cursor.readBody markers = .ok (body, after)) :
    Passes cursor (body ++ markers.closing) after := by
  rw [readBody] at read
  split at read
  · next found =>
    rcases Prod.mk.inj (Except.ok.inj read) with ⟨rfl, rfl⟩
    exact passes_readUntil? found
  · simp at read

theorem readName_eq_ok {name : String} (read : cursor.readName markers = .ok (name, after)) :
    ∃ body, cursor.readBody markers = .ok (body, after) ∧ checkName body = .ok name := by
  rw [readName] at read
  cases found : cursor.readBody markers with
  | error problem => simp [found, bind, Except.bind] at read
  | ok result =>
    rcases result with ⟨body, last⟩
    cases checked : checkName body with
    | error problem => simp [found, checked, bind, Except.bind] at read
    | ok text =>
      simp [found, checked, bind, Except.bind, pure, Except.pure] at read
      rcases read with ⟨rfl, rfl⟩
      exact ⟨body, rfl, checked⟩

theorem passes_readName {name : String} (read : cursor.readName markers = .ok (name, after)) :
    ∃ body, Passes cursor (body ++ markers.closing) after := by
  rcases readName_eq_ok read with ⟨body, found, _⟩
  exact ⟨body, passes_readBody found⟩

theorem passes_readTripleName {name : String}
    (read : cursor.readTripleName markers = .ok (name, after)) :
    ∃ body, Passes cursor (body ++ markers.closing) after := by
  rw [readTripleName] at read
  split at read
  · simp at read
  · simp at read
  · next body last shorter _ found _ =>
    split at read
    · cases checked : checkName body with
      | error problem => simp [checked, bind, Except.bind] at read
      | ok text =>
        simp [checked, bind, Except.bind, pure, Except.pure] at read
        rcases read with ⟨rfl, rfl⟩
        exact ⟨body ++ ['}'], by simpa using passes_readUntil? found⟩
    · simp at read

theorem passes_readBefore? {stops : Char → Bool} {text : List Char}
    (read : cursor.readBefore? stops = some (text, after)) : Passes cursor text after := by
  simp only [readBefore?] at read
  split at read
  · simp at read
  · rcases Prod.mk.inj (Option.some.inj read) with ⟨rfl, rfl⟩
    exact passes_of_unread List.takeWhile_append_dropWhile.symm

theorem passes_getD_tryRead? (cursor : Cursor) (mark : List Char) :
    ∃ text, Passes cursor text ((cursor.tryRead? mark).getD cursor) := by
  cases read : cursor.tryRead? mark with
  | none => exact ⟨[], Passes.refl cursor⟩
  | some after => exact ⟨mark, passes_tryRead? read⟩

theorem passes_readRedelimit {next : Markers}
    (read : cursor.readRedelimit markers = .ok (next, after)) :
    ∃ body, Passes cursor (body ++ markers.closing) after := by
  simp only [readRedelimit, pure, Except.pure] at read
  split at read
  · next opening one first =>
    split at read
    · next closing two second =>
      split at read
      · next three third =>
        split at read
        · rcases Prod.mk.inj (Except.ok.inj read) with ⟨rfl, rfl⟩
          rcases passes_getD_tryRead? two.skipBlanks ['='] with ⟨sign, signed⟩
          have whole := (((((cursor.passes_skipBlanks.trans (passes_readBefore? first)).trans
            one.passes_skipBlanks).trans (passes_readBefore? second)).trans
            two.passes_skipBlanks).trans signed).trans (passes_skipBlanks _)
          exact ⟨_, whole.trans (passes_tryRead? third)⟩
        · simp at read
      · simp at read
    · simp at read
  · simp at read

theorem passes_next? {character : Char} (read : cursor.next? = some (character, after)) :
    Passes cursor [character] after := by
  rcases Option.map_eq_some_iff.mp read with ⟨first, peeked, equal⟩
  rcases Prod.mk.inj equal with ⟨rfl, rfl⟩
  rcases List.head?_eq_some_iff.mp peeked with ⟨rest, unread⟩
  exact passes_of_unread (by simpa using unread)

theorem eq_ok_of_map_eq_ok {α β : Type} {transform : α → β} {result : Except Problem α}
    {value : β} (mapped : result.map transform = .ok value) :
    ∃ found, result = .ok found ∧ transform found = value := by
  cases result with
  | error problem => simp [Except.map] at mapped
  | ok found => exact ⟨found, rfl, by simpa [Except.map] using mapped⟩

theorem readNamed_eq_ok {content : TagContent} {named : String → TagContent}
    (read : cursor.readNamed markers named = .ok (content, after)) :
    ∃ name, cursor.readName markers = .ok (name, after) ∧ content = named name := by
  rw [readNamed] at read
  cases found : cursor.readName markers with
  | error problem => simp [found, bind, Except.bind] at read
  | ok result =>
    rcases result with ⟨name, last⟩
    simp [found, bind, Except.bind, pure, Except.pure] at read
    exact ⟨name, by rw [read.2], read.1.symm⟩

theorem readVerbatim_eq_ok {content : TagContent} {kind : LeafKind}
    (read : cursor.readVerbatim markers kind = .ok (content, after)) :
    ∃ body, cursor.readBody markers = .ok (body, after) ∧
      content = .leaf kind (String.ofList body) := by
  rw [readVerbatim] at read
  cases found : cursor.readBody markers with
  | error problem => simp [found, bind, Except.bind] at read
  | ok result =>
    rcases result with ⟨body, last⟩
    simp [found, bind, Except.bind, pure, Except.pure] at read
    exact ⟨body, by rw [read.2], read.1.symm⟩

theorem passes_readNamed {content : TagContent} {named : String → TagContent}
    (read : cursor.readNamed markers named = .ok (content, after)) :
    ∃ body, Passes cursor (body ++ markers.closing) after :=
  have ⟨_, found, _⟩ := readNamed_eq_ok read
  passes_readName found

theorem passes_readVerbatim {content : TagContent} {kind : LeafKind}
    (read : cursor.readVerbatim markers kind = .ok (content, after)) :
    ∃ body, Passes cursor (body ++ markers.closing) after :=
  have ⟨body, found, _⟩ := readVerbatim_eq_ok read
  ⟨body, passes_readBody found⟩

theorem passes_readSigil {behind : Cursor} {sigil : Char} {content : TagContent}
    (next : Passes cursor [sigil] behind)
    (read : cursor.readSigil behind markers sigil = .ok (content, after)) :
    ∃ body, Passes cursor (body ++ markers.closing) after := by
  have further : (∃ body, Passes behind (body ++ markers.closing) after) →
      ∃ body, Passes cursor (body ++ markers.closing) after :=
    fun ⟨body, passes⟩ => ⟨sigil :: body, next.trans passes⟩
  rw [readSigil.eq_def] at read
  split at read
  · exact further (passes_readVerbatim read)
  · exact further (passes_readVerbatim read)
  · exact further (passes_readNamed read)
  · exact further (passes_readNamed read)
  · exact further (passes_readNamed read)
  · exact further (passes_readNamed read)
  · exact further (passes_readNamed read)
  · rcases eq_ok_of_map_eq_ok read with ⟨⟨markers, last⟩, found, equal⟩
    rcases Prod.mk.inj equal with ⟨_, rfl⟩
    exact further (passes_readRedelimit found)
  · rcases eq_ok_of_map_eq_ok read with ⟨⟨name, last⟩, found, equal⟩
    rcases Prod.mk.inj equal with ⟨_, rfl⟩
    exact further (passes_readTripleName found)
  · exact passes_readNamed read

/-- A tag ends with the closing mark. -/
theorem passes_readTag {content : TagContent}
    (read : cursor.readTag markers = .ok (content, after)) :
    ∃ body, Passes cursor (body ++ markers.closing) after := by
  rw [readTag] at read
  split at read
  · next found =>
    rcases passes_readSigil (passes_next? found) read with ⟨body, passes⟩
    have whole := cursor.passes_skipBlanks.trans passes
    rw [← List.append_assoc] at whole
    exact ⟨_, whole⟩
  · simp at read

end Cursor

end Mustache
