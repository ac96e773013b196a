import Mustache.Proofs.Token.Lookahead
import Mustache.Proofs.Token.Place

namespace Mustache

/-! Parts of a reading. The reader goes on from one cursor to another, tag by tag, and the
tokens it leaves behind depend only on the text between the two. So a reading can be cut
off in front of a tag, and the source can be made longer behind it. -/

open Text

namespace Token

/-- The reader goes on from a cursor and the marks in force there. It leaves the tokens
behind and stands behind the last tag, with the marks that are in force then. -/
inductive Reads : Cursor → Markers → List Token → Cursor → Markers → Prop where
  | here {cursor : Cursor} {markers : Markers} : Reads cursor markers [] cursor markers
  | goesOn {cursor inside after last : Cursor} {markers marks : Markers} {content : TagContent}
      {text : List Char} {tokens : List Token}
      (opened : cursor.readUntil? markers.opening = some (text, inside))
      (read : inside.readTag markers = .ok (content, after))
      (reads : Reads after (content.next markers) tokens last marks) :
      Reads cursor markers
        (plains text markers ++
          ofTag content markers (cursor.advance text.length) inside after :: tokens) last marks

@[simp] theorem reverse_plains (text : List Char) (markers : Markers) :
    (plains text markers).reverse = plains text markers := by
  unfold plains
  split <;> rfl

variable {cursor last inside after : Cursor} {markers marks : Markers} {content : TagContent}
  {text more : List Char} {tokens : List Token}

namespace Reads

theorem readFrom_eq (reads : Reads cursor markers tokens last marks) (passed : List Token) :
    readFrom cursor markers passed = readFrom last marks (tokens.reverse ++ passed) := by
  induction reads generalizing passed with
  | here => rfl
  | goesOn opened read reads induction =>
      rw [readFrom_of_readTag passed opened read, induction]
      simp

theorem append {further : Cursor} {behind : Markers} {later : List Token}
    (reads : Reads cursor markers tokens last marks)
    (rest : Reads last marks later further behind) :
    Reads cursor markers (tokens ++ later) further behind := by
  induction reads with
  | here => exact rest
  | goesOn opened read reads induction =>
      rw [List.append_assoc, List.cons_append]
      exact .goesOn opened read (induction rest)

theorem sound (reads : Reads cursor markers tokens last marks) (sound : markers.Sound) :
    marks.Sound := by
  induction reads with
  | here => exact sound
  | goesOn opened read reads induction =>
      rcases (Cursor.readTag_eq_ok_iff sound).mp read with ⟨body, form, -⟩
      exact induction (form.sound_next sound)

theorem exists_passes (reads : Reads cursor markers tokens last marks) :
    ∃ text, Cursor.Passes cursor text last := by
  induction reads with
  | here => exact ⟨[], .refl _⟩
  | goesOn opened read reads induction =>
      rcases induction with ⟨behind, rest⟩
      rcases Cursor.passes_readTag read with ⟨body, inner⟩
      exact ⟨_, ((Cursor.passes_readUntil? opened).trans inner).trans rest⟩

/-- The marks at the end are those that the last change among the tokens has made. -/
theorem marks_eq (reads : Reads cursor markers tokens last marks) :
    marks = tokens.foldl (fun markers token => token.lexeme.next markers) markers := by
  induction reads with
  | here => rfl
  | @goesOn cursor inside after last markers marks content text tokens opened read reads
      induction =>
      rw [induction]
      unfold plains
      split <;> rfl

end Reads

/-- The reader goes on until no tag is left or one cannot be read. -/
theorem exists_reads (cursor : Cursor) (markers : Markers) :
    ∃ tokens last marks, Reads cursor markers tokens last marks ∧
      (last.readUntil? marks.opening = none ∨
        ∃ text inside problem, last.readUntil? marks.opening = some (text, inside) ∧
          inside.readTag marks = .error problem) := by
  -- The tokens passed do not matter; they only let the recursion of the reader be followed.
  generalize ([] : List Token) = passed
  fun_induction readFrom cursor markers passed with
  | case1 cursor markers passed opened => exact ⟨[], cursor, markers, .here, .inl opened⟩
  | case2 cursor markers passed text inside opened before problem failed =>
      exact ⟨[], cursor, markers, .here, .inr ⟨text, inside, problem, opened, failed⟩⟩
  | case3 cursor markers passed text inside opened before content after read induction =>
      rcases induction with ⟨tokens, last, marks, reads, ends⟩
      exact ⟨_, last, marks, .goesOn opened read reads, ends⟩

theorem exists_of_plains_append {earlier later rest : List Token} {body : String}
    {between : Markers} {span : Span}
    (place : plains text markers ++ rest = earlier ++ .tag content body between span :: later) :
    ∃ others, earlier = plains text markers ++ others ∧
      rest = others ++ .tag content body between span :: later := by
  by_cases empty : text.isEmpty
  · rw [plains, if_pos empty] at place ⊢
    exact ⟨earlier, rfl, place⟩
  · rw [plains, if_neg empty] at place ⊢
    cases earlier with
    | nil => cases place
    | cons first others =>
        cases place
        exact ⟨others, rfl, rfl⟩

/-- The reader has met each of the tags that it has left behind. -/
theorem Reads.exists_of_tag {earlier later : List Token} {body : String} {span : Span}
    {between : Markers} (reads : Reads cursor markers tokens last marks)
    (place : tokens = earlier ++ .tag content body between span :: later) :
    ∃ passed middle text inside after, Reads cursor markers passed middle between ∧
      middle.readUntil? between.opening = some (text, inside) ∧
      inside.readTag between = .ok (content, after) ∧
      earlier = passed ++ plains text between ∧
      span.offset = (middle.advance text.length).offset := by
  induction reads generalizing earlier with
  | here => simp at place
  | goesOn opened read reads induction =>
      rcases exists_of_plains_append place with ⟨others, rfl, behind⟩
      cases others with
      | nil =>
          cases behind
          exact ⟨[], _, _, _, _, .here, opened, read, List.append_nil _, rfl⟩
      | cons first others =>
          rcases List.cons.inj behind with ⟨rfl, further⟩
          rcases induction further with
            ⟨passed, middle, text, inside, after, before, opening, tag, rfl, same⟩
          refine ⟨_, middle, text, inside, after, .goesOn opened read before, opening, tag, ?_,
            same⟩
          simp

/-! ## Whole readings -/

theorem offset_before (opened : cursor.readUntil? markers.opening = some (text, inside)) :
    (cursor.advance text.length).offset = cursor.offset + text.length := by
  have view := (Cursor.passes_readUntil? opened).unread
  rw [List.append_assoc] at view
  exact (Cursor.passes_of_unread view).offset

namespace Reads

variable {source : List Char}

theorem read_eq_of_unmarked (reads : Reads (.start source) .standard tokens last marks)
    (absent : ¬ marks.opening <:+: last.unread) :
    TokenSequence.read source = ⟨tokens ++ plains last.unread marks, none⟩ := by
  rw [TokenSequence.read, reads.readFrom_eq, readFrom_of_unmarked absent]
  simp

theorem read_eq_of_failed (reads : Reads (.start source) .standard tokens last marks)
    {problem : Problem} (opened : last.readUntil? marks.opening = some (text, inside))
    (failed : inside.readTag marks = .error problem) :
    TokenSequence.read source =
      ⟨tokens ++ plains text marks, some ⟨last.offset + text.length, problem⟩⟩ := by
  rw [TokenSequence.read, reads.readFrom_eq, readFrom_of_failed _ opened failed,
    offset_before opened]
  simp

theorem exists_tokens_read (reads : Reads (.start source) .standard tokens last marks) :
    ∃ later, (TokenSequence.read source).tokens = tokens ++ later := by
  rcases placed_of_readFrom last marks (tokens.reverse ++ []) with ⟨later, whole, -⟩
  refine ⟨later, ?_⟩
  rw [TokenSequence.read, reads.readFrom_eq, whole, List.append_nil, List.reverse_reverse]

end Reads

/-! ## Longer and shorter sources -/

theorem ofTag_extend (opened : cursor.readUntil? markers.opening = some (text, inside))
    (read : inside.readTag markers = .ok (content, after)) (more : List Char) :
    ofTag content markers ((cursor.extend more).advance text.length) (inside.extend more)
        (after.extend more) =
      ofTag content markers (cursor.advance text.length) inside after := by
  rcases Cursor.passes_readTag read with ⟨body, inner⟩
  rw [ofTag_eq _ _ inner, ofTag_eq _ _ (Cursor.passes_extend_iff.mpr inner), offset_before opened,
    offset_before (Cursor.readUntil?_extend_iff.mpr opened)]
  rfl

namespace Reads

/-- What has been read stays as it is when the source goes on. -/
theorem extend (reads : Reads cursor markers tokens last marks) (sound : markers.Sound)
    (more : List Char) :
    Reads (cursor.extend more) markers tokens (last.extend more) marks := by
  induction reads with
  | here => exact .here
  | goesOn opened read reads induction =>
      rcases (Cursor.readTag_eq_ok_iff sound).mp read with ⟨body, form, -⟩
      rw [← ofTag_extend opened read more]
      exact .goesOn (Cursor.readUntil?_extend_iff.mpr opened)
        ((Cursor.readTag_extend_iff sound).mpr read) (induction (form.sound_next sound))

/-- What has been read is read of the shorter source, too, if it does not reach into the
text at the end. -/
theorem exists_of_extend {rest : List Char}
    (reads : Reads (cursor.extend more) markers tokens last marks) (sound : markers.Sound)
    (ends : last.unread = rest ++ more) :
    ∃ shorter : Cursor, last = shorter.extend more ∧ shorter.unread = rest ∧
      Reads cursor markers tokens shorter marks := by
  generalize longer : cursor.extend more = start at reads
  induction reads generalizing cursor with
  | @here start markers =>
      subst longer
      exact ⟨cursor, rfl, List.append_cancel_right ends, .here⟩
  | @goesOn start inside after last markers marks content text tokens opened read reads
      induction =>
      subst longer
      rcases (Cursor.readTag_eq_ok_iff sound).mp read with ⟨body, form, inner⟩
      rcases reads.exists_passes with ⟨behind, passes⟩
      have viewAfter : after.unread = (behind ++ rest) ++ more := by
        rw [passes.unread, ends, List.append_assoc]
      have viewInside : inside.unread = (body ++ markers.closing ++ (behind ++ rest)) ++ more := by
        rw [inner.unread, viewAfter, ← List.append_assoc]
      rcases Cursor.exists_of_passes_extend (Cursor.passes_readUntil? opened) viewInside with
        ⟨inside, rfl, -⟩
      rcases Cursor.exists_of_passes_extend inner viewAfter with ⟨after, rfl, -⟩
      rcases induction (form.sound_next sound) ends rfl with ⟨shorter, same, view, reads⟩
      have opened := Cursor.readUntil?_extend_iff.mp opened
      have read := (Cursor.readTag_extend_iff sound).mp read
      refine ⟨shorter, same, view, ?_⟩
      rw [ofTag_extend opened read]
      exact .goesOn opened read reads

end Reads

end Token

end Mustache
