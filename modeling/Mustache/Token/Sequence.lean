import Mustache.Token.Reading

namespace Mustache

/-! All tokens of a template source. The marks in force change as the source is
read, also inside sections, and stay changed behind them. -/

/-- The tokens before the end of a source or before its first defect. -/
structure TokenSequence where
  tokens : List Token
  defect : Option Defect
deriving DecidableEq

/-- Marks in force behind a tag. -/
def TagContent.next (content : TagContent) (markers : Markers) : Markers :=
  match content with
  | .redelimit next => next
  | _ => markers

namespace Token

/-- A plain token, unless it would be empty. -/
def plains (text : List Char) (markers : Markers) : List Token :=
  if text.isEmpty then [] else [.plain (String.ofList text) markers]

/-- The token of a tag that stands between two cursors, given the cursor before
its opening mark, the one behind that mark and the one behind the closing mark. -/
def ofTag (content : TagContent) (markers : Markers) (before inside after : Cursor) : Token :=
  let bodyEnd := after.byteOffset - Text.byteLength markers.closing
  let body := (Text.takeBytes? inside.unread (bodyEnd - inside.byteOffset)).getD []
  .tag content (String.ofList body) markers ⟨before.offset, inside.byteOffset, bodyEnd⟩

/-- Read on from a cursor; `passed` are the tokens so far, the last one first. -/
def readFrom (cursor : Cursor) (markers : Markers) (passed : List Token) : TokenSequence :=
  match _opened : cursor.readUntil? markers.opening with
  | none => ⟨((plains cursor.unread markers) ++ passed).reverse, none⟩
  | some (text, inside) =>
    let before := cursor.advance text.length
    match _read : inside.readTag markers with
    | .error problem => ⟨(plains text markers ++ passed).reverse, some ⟨before.offset, problem⟩⟩
    | .ok (content, after) =>
      readFrom after (content.next markers)
        (ofTag content markers before inside after :: (plains text markers ++ passed))
termination_by cursor.unread.length
decreasing_by
  have opening := (Cursor.passes_readUntil? _opened).length_unread
  obtain ⟨body, passes⟩ := Cursor.passes_readTag _read
  have closing := passes.length_unread
  have positive := List.length_pos_iff.mpr markers.opening_ne_nil
  simp only [List.length_append] at opening closing
  omega

end Token

/-- Tokens of a source; the standard marks are in force at its start. -/
def TokenSequence.read (source : List Char) : TokenSequence :=
  Token.readFrom (.start source) .standard []

end Mustache
