import Mustache.Proofs.Token.Reading

namespace Mustache

/-! Which sequences of tokens a source can be read as. Reading a source without a
defect gives a legible sequence that spells the source, and every legible
sequence is read back from what it spells. -/

open Text

/-- A token without its place. -/
inductive Lexeme where
  | plain (text : String) (markers : Markers)
  | tag (content : TagContent) (body : String) (markers : Markers)

namespace Lexeme

/-- A lexeme as it is written. -/
def toChars : Lexeme → List Char
  | plain text _ => text.toList
  | tag _ body markers => markers.around body.toList

/-- The marks in force behind a lexeme. -/
def next : Lexeme → Markers → Markers
  | plain _ _, markers => markers
  | tag content _ _, markers => content.next markers

end Lexeme

def Token.lexeme : Token → Lexeme
  | .plain text markers => .plain text markers
  | .tag content body markers _ => .tag content body markers

/-- The marks that are in force behind the last token. -/
def TokenSequence.lastMarkers (sequence : TokenSequence) : Markers :=
  sequence.tokens.foldl (fun markers token => token.lexeme.next markers) .standard

/-- A plain text ends where the lexemes behind it start: no opening mark stands
in it, and a tag behind it has its mark no earlier than where it is written. -/
def EndsBefore (markers : Markers) (text : String) : List Lexeme → Prop
  | [] => ¬ markers.opening <:+: text.toList
  | .plain _ _ :: _ => False
  | .tag _ _ _ :: _ => Clear markers.opening text.toList

/-- Sequences of lexemes that can be read, where the given marks are in force
before the first one. -/
inductive Legible : Markers → List Lexeme → Prop
  | nil {markers : Markers} : Legible markers []
  | plain {markers : Markers} {text : String} {rest : List Lexeme} (nonempty : text ≠ "")
      (ended : EndsBefore markers text rest) (follows : Legible markers rest) :
      Legible markers (.plain text markers :: rest)
  | tag {markers : Markers} {content : TagContent} {body : String} {rest : List Lexeme}
      (form : TagBody markers body.toList content)
      (follows : Legible (content.next markers) rest) :
      Legible markers (.tag content body markers :: rest)

theorem TagBody.sound_next {markers : Markers} {body : List Char} {content : TagContent}
    (form : TagBody markers body content) (sound : markers.Sound) :
    (content.next markers).Sound := by
  rcases form with ⟨lead, text, -, -, form⟩
  cases form with
  | verbatim kept clear => exact sound
  | @named sigil content text name made clear names =>
      rw [namedContent?.eq_def] at made
      split at made <;> cases made <;> exact sound
  | bare plain inked clear names => exact sound
  | triple clear names => exact sound
  | redelimit written =>
      cases written with
      | intro solid => exact solid

namespace Token

variable {cursor inside after : Cursor} {markers : Markers} {content : TagContent}
  {text body : List Char} {passed : List Token}

/-- The body that is cut out by its byte positions is what was passed. -/
theorem ofTag_eq (content : TagContent) (before : Cursor)
    (passes : Cursor.Passes inside (body ++ markers.closing) after) :
    ofTag content markers before inside after =
      .tag content (String.ofList body) markers
        ⟨before.offset, inside.byteOffset, inside.byteOffset + byteLength body⟩ := by
  have place : after.byteOffset - byteLength markers.closing =
      inside.byteOffset + byteLength body := by
    rw [passes.byteOffset, byteLength_append]
    omega
  have cut : takeBytes? inside.unread (byteLength body) = some body := by
    rw [passes.unread, List.append_assoc]
    exact takeBytes?_append body _
  simp only [ofTag, place, Nat.add_sub_cancel_left, cut, Option.getD_some]

theorem lexeme_ofTag (content : TagContent) (before : Cursor)
    (passes : Cursor.Passes inside (body ++ markers.closing) after) :
    (ofTag content markers before inside after).lexeme =
      .tag content (String.ofList body) markers := by
  rw [ofTag_eq content before passes]
  rfl

/-- Without an opening mark, all that is left is a plain text. -/
theorem readFrom_of_unmarked (absent : ¬ markers.opening <:+: cursor.unread) :
    readFrom cursor markers passed = ⟨(plains cursor.unread markers ++ passed).reverse, none⟩ := by
  rw [readFrom]
  split
  · rfl
  · next opened =>
    rw [Cursor.readUntil?_eq_none_iff.mpr absent] at opened
    cases opened

/-- A text up to the first opening mark and the tag behind it are read in one step. -/
theorem readFrom_of_readTag (passed : List Token)
    (opened : cursor.readUntil? markers.opening = some (text, inside))
    (read : inside.readTag markers = .ok (content, after)) :
    readFrom cursor markers passed = readFrom after (content.next markers)
      (ofTag content markers (cursor.advance text.length) inside after ::
        (plains text markers ++ passed)) := by
  rw [readFrom]
  split
  · next none => cases opened.symm.trans none
  · next found =>
    cases opened.symm.trans found
    split
    · next failed => cases read.symm.trans failed
    · next finished =>
      cases read.symm.trans finished
      rfl

/-- A tag that cannot be read is the last one that is looked at. -/
theorem readFrom_of_failed (passed : List Token) {problem : Problem}
    (opened : cursor.readUntil? markers.opening = some (text, inside))
    (failed : inside.readTag markers = .error problem) :
    readFrom cursor markers passed = ⟨(plains text markers ++ passed).reverse,
      some ⟨(cursor.advance text.length).offset, problem⟩⟩ := by
  rw [readFrom]
  split
  · next none => cases opened.symm.trans none
  · next found =>
    cases opened.symm.trans found
    split
    · next other =>
      cases failed.symm.trans other
      rfl
    · next finished => cases failed.symm.trans finished

theorem readFrom_of_tagBody (passed : List Token) (sound : markers.Sound)
    (clear : Clear markers.opening text) (form : TagBody markers body content)
    (passes : Cursor.Passes cursor (text ++ markers.around body) after) :
    ∃ token : Token, token.lexeme = .tag content (String.ofList body) markers ∧
      readFrom cursor markers passed =
        readFrom after (content.next markers) (token :: (plains text markers ++ passed)) := by
  rw [Markers.around, List.append_assoc, ← List.append_assoc text] at passes
  rcases passes.divide with ⟨inside, outer, inner⟩
  have opened := Cursor.readUntil?_eq_some_iff.mpr ⟨clear, outer⟩
  have read := (Cursor.readTag_eq_ok_iff sound).mpr ⟨body, form, inner⟩
  exact ⟨_, lexeme_ofTag content (cursor.advance text.length) inner,
    readFrom_of_readTag passed opened read⟩

theorem plains_of_ne (nonempty : text ≠ []) :
    plains text markers = [.plain (String.ofList text) markers] := by
  rw [plains, if_neg (by simpa using nonempty)]

end Token

/-! ## What is read is legible -/

/-- A text in front of lexemes that it ends before, dropped if it is empty. -/
theorem Legible.plains {markers : Markers} {text : List Char} {rest : List Lexeme}
    (ended : EndsBefore markers (String.ofList text) rest) (follows : Legible markers rest) :
    Legible markers ((Token.plains text markers).map Token.lexeme ++ rest) := by
  cases text with
  | nil => exact follows
  | cons head tail =>
      refine .plain ?_ ended follows
      intro empty
      have chars := congrArg String.toList empty
      simp at chars

theorem flatMap_plains (text : List Char) (markers : Markers) :
    ((Token.plains text markers).map Token.lexeme).flatMap Lexeme.toChars = text := by
  cases text with
  | nil => rfl
  | cons head tail => simp [Token.plains, Token.lexeme, Lexeme.toChars]

/-- Without a defect, all of the unread text is spelled by legible lexemes. -/
theorem legible_of_readFrom {cursor : Cursor} {markers : Markers} (sound : markers.Sound)
    (passed : List Token) (perfect : (Token.readFrom cursor markers passed).defect = none) :
    ∃ tokens, (Token.readFrom cursor markers passed).tokens = passed.reverse ++ tokens ∧
      Legible markers (tokens.map Token.lexeme) ∧
      (tokens.map Token.lexeme).flatMap Lexeme.toChars = cursor.unread := by
  fun_induction Token.readFrom cursor markers passed with
  | case1 cursor markers passed opened =>
      have absent := Cursor.readUntil?_eq_none_iff.mp opened
      refine ⟨Token.plains cursor.unread markers, ?_, ?_, flatMap_plains _ _⟩
      · cases cursor.unread with
        | nil => simp [Token.plains]
        | cons head tail => simp [Token.plains]
      · rw [← List.append_nil (List.map _ _)]
        refine Legible.plains ?_ .nil
        rwa [EndsBefore, String.toList_ofList]
  | case2 cursor markers passed text inside opened before problem read => cases perfect
  | case3 cursor markers passed text inside opened before content after read induction =>
      rcases Cursor.readUntil?_eq_some_iff.mp opened with ⟨clear, outer⟩
      rcases (Cursor.readTag_eq_ok_iff sound).mp read with ⟨body, form, inner⟩
      rcases induction (form.sound_next sound) perfect with ⟨tokens, same, legible, spelled⟩
      have shown := Token.lexeme_ofTag content before inner
      refine ⟨Token.plains text markers ++
        Token.ofTag content markers before inside after :: tokens, ?_, ?_, ?_⟩
      · rw [same]
        cases text with
        | nil => simp [Token.plains]
        | cons head tail => simp [Token.plains]
      · rw [List.map_append, List.map_cons, shown]
        refine Legible.plains ?_ (.tag ?_ legible)
        · rwa [EndsBefore, String.toList_ofList]
        · rwa [String.toList_ofList]
      · rw [List.map_append, List.map_cons, shown, List.flatMap_append, List.flatMap_cons,
          flatMap_plains, spelled, outer.unread, inner.unread]
        simp [Lexeme.toChars, Markers.around]

/-! ## What is legible is read -/

/-- Legible lexemes are read from any source text that they spell. -/
theorem readFrom_of_legible : ∀ (lexemes : List Lexeme) {cursor : Cursor} {markers : Markers},
    markers.Sound → Legible markers lexemes →
    cursor.unread = lexemes.flatMap Lexeme.toChars → ∀ passed : List Token,
    ∃ tokens, Token.readFrom cursor markers passed = ⟨passed.reverse ++ tokens, none⟩ ∧
      tokens.map Token.lexeme = lexemes
  | [], cursor, markers, _, _, unread, passed => by
      have absent : ¬ markers.opening <:+: cursor.unread := by
        rw [unread]
        exact (clear_nil _).not_within markers.opening_ne_nil
      refine ⟨[], ?_, rfl⟩
      rw [Token.readFrom_of_unmarked absent, unread]
      simp [Token.plains]
  | [.plain text markers], cursor, _, _, legible, unread, passed => by
      cases legible with
      | plain nonempty ended _ =>
          have view : cursor.unread = text.toList := by
            rw [unread]
            simp [Lexeme.toChars]
          rw [EndsBefore, ← view] at ended
          refine ⟨[.plain text markers], ?_, rfl⟩
          rw [Token.readFrom_of_unmarked ended, view,
            Token.plains_of_ne fun empty => nonempty (String.toList_eq_nil_iff.mp empty)]
          simp
  | .plain _ _ :: .plain _ _ :: _, _, _, _, legible, _, _ => by
      cases legible with
      | plain nonempty ended follows => cases ended
  | .plain text markers :: .tag content body _ :: rest, cursor, _, sound, legible, unread,
    passed => by
      cases legible with
      | plain nonempty ended follows =>
      cases follows with
      | tag form follows =>
          rw [List.flatMap_cons, List.flatMap_cons, ← List.append_assoc] at unread
          rcases Cursor.exists_passes unread with ⟨after, passes, view⟩
          rcases Token.readFrom_of_tagBody passed sound ended form passes with
            ⟨token, shown, step⟩
          rcases readFrom_of_legible rest (form.sound_next sound) follows view
            (token :: (Token.plains text.toList markers ++ passed)) with ⟨tokens, read, same⟩
          rw [Token.plains_of_ne fun empty => nonempty (String.toList_eq_nil_iff.mp empty)]
            at step read
          refine ⟨.plain text markers :: token :: tokens, ?_, ?_⟩
          · rw [step, read]
            simp
          · rw [List.map_cons, List.map_cons, shown, same, String.ofList_toList]
            rfl
  | .tag content body markers :: rest, cursor, _, sound, legible, unread, passed => by
      cases legible with
      | tag form follows =>
          rw [List.flatMap_cons, ← List.nil_append (Lexeme.toChars _)] at unread
          rcases Cursor.exists_passes unread with ⟨after, passes, view⟩
          rcases Token.readFrom_of_tagBody passed sound (clear_nil _) form passes with
            ⟨token, shown, step⟩
          rcases readFrom_of_legible rest (form.sound_next sound) follows view
            (token :: (Token.plains [] markers ++ passed)) with ⟨tokens, read, same⟩
          refine ⟨token :: tokens, ?_, ?_⟩
          · rw [step, read]
            simp [Token.plains]
          · rw [List.map_cons, shown, same, String.ofList_toList]

end Mustache
