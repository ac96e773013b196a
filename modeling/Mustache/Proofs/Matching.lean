import Mathlib.Data.List.Forall2
import Mustache.Proofs.Draft
import Mustache.Proofs.Token.Place

namespace Mustache

/-! Which tags match, and what is said where they do not. A source is written piece by
piece under the standard marks, and the sections open behind some pieces are told from
these pieces alone. -/

open Text

/-! ## Pieces of a source -/

/-- The plainest text between the marks of a tag. -/
def TagContent.body : TagContent → List Char
  | .leaf kind text => kind.bodyOf text.toList
  | .redelimit next => LeafKind.redelimit.bodyOf next.toChars
  | .opening kind name => kind.sigil :: name.toList
  | .closing name => '/' :: name.toList

inductive Piece where
  | plain (text : String)
  | tag (content : TagContent)
deriving DecidableEq

namespace Piece

/-- A piece as it is written, a tag between the standard marks. -/
def toChars : Piece → List Char
  | plain text => text.toList
  | tag content => Markers.standard.around content.body

def source (pieces : List Piece) : String :=
  String.ofList (pieces.flatMap toChars)

def Braceless (text : String) : Prop :=
  '{' ∉ text.toList ∧ '}' ∉ text.toList

/-- A name without braces, and without blanks around it. -/
def Named (name : String) : Prop :=
  Names name.toList name ∧ Braceless name

instance (text : String) : Decidable (Braceless text) :=
  inferInstanceAs (Decidable (_ ∧ _))

instance (name : String) : Decidable (Named name) :=
  inferInstanceAs (Decidable (_ ∧ _))

/-- The pieces in question: texts and names without braces, names that are not taken for
another tag, and the standard marks throughout. -/
def Fits : Piece → Prop
  | plain text => text ≠ "" ∧ Braceless text
  | tag (.leaf .name name) => Named name ∧ (name.toList.head?.any isSigil) = false
  | tag (.leaf .unescaped name) | tag (.leaf .triple name) | tag (.leaf .inclusion name) =>
    Named name
  | tag (.leaf .comment text) | tag (.leaf .pragma text) => Braceless text
  | tag (.opening _ name) | tag (.closing name) => Named name
  | tag (.leaf .redelimit _) | tag (.redelimit _) => False

instance : (piece : Piece) → Decidable piece.Fits
  | plain _ | tag (.leaf .name _) => inferInstanceAs (Decidable (_ ∧ _))
  | tag (.leaf .unescaped _) | tag (.leaf .triple _) | tag (.leaf .inclusion _)
  | tag (.opening _ _) | tag (.closing _) => inferInstanceAs (Decidable (Named _))
  | tag (.leaf .comment _) | tag (.leaf .pragma _) => inferInstanceAs (Decidable (Braceless _))
  | tag (.leaf .redelimit _) | tag (.redelimit _) => isFalse id

/-! ## Sections left open -/

/-- A section that is open: what is written before its opening tag, and its name. -/
structure Opened where
  before : List Char
  name : String
deriving DecidableEq

/-- The sections open behind a piece, the innermost first. -/
def sections (written : List Char) (opened : List Opened) : Piece → List Opened
  | tag (.opening _ name) => ⟨written, name⟩ :: opened
  | tag (.closing _) => opened.tail
  | _ => opened

/-- The sections open behind more pieces, which follow what is written. -/
def openFrom (written : List Char) (opened : List Opened) : List Piece → List Opened
  | [] => opened
  | piece :: rest => openFrom (written ++ piece.toChars) (piece.sections written opened) rest

/-- The sections open behind the pieces, the innermost first. -/
def stillOpen (pieces : List Piece) : List Opened :=
  openFrom [] [] pieces

/-- Each closing tag has the name of the innermost section that is open there. -/
def Matched (pieces : List Piece) : Prop :=
  ∀ before name behind, pieces = before ++ tag (.closing name) :: behind →
    (stillOpen before).head?.map Opened.name = some name

/-- Where tags first fail to match, told by what is written before the tag in question,
and the words for it. A section left open is told only if nothing else is wrong. -/
inductive FirstOffence (pieces : List Piece) : List Char → String → Prop where
  | unexpected {before behind : List Piece} {name : String}
      (place : pieces = before ++ tag (.closing name) :: behind) (matched : Matched before)
      (closed : stillOpen before = []) :
      FirstOffence pieces (before.flatMap toChars) ("unexpected closing tag `" ++ name ++ "`")
  | mismatch {before behind : List Piece} {name : String} {innermost : Opened}
      {others : List Opened} (place : pieces = before ++ tag (.closing name) :: behind)
      (matched : Matched before) (opened : stillOpen before = innermost :: others)
      (different : innermost.name ≠ name) :
      FirstOffence pieces (before.flatMap toChars)
        ("closing tag name mismatch: expected `" ++ innermost.name ++ "`, found `" ++ name ++ "`")
  | unterminated {innermost : Opened} {others : List Opened} (matched : Matched pieces)
      (opened : stillOpen pieces = innermost :: others) :
      FirstOffence pieces innermost.before ("unterminated section `" ++ innermost.name ++ "`")

/-! ## The first thing wrong -/

/-- What is wrong with a piece behind which sections are open. -/
def problem? (opened : List Opened) : Piece → Option Problem
  | tag (.closing name) =>
    match opened with
    | [] => some (.unexpectedClosing name)
    | innermost :: _ =>
      if innermost.name = name then none else some (.closingMismatch innermost.name name)
  | _ => none

/-- The first thing wrong with the nesting of pieces, and what is written before it. -/
def misnesting? (written : List Char) (opened : List Opened) :
    List Piece → Option (List Char × Problem)
  | [] => opened.head?.map fun innermost =>
    (innermost.before, .unterminatedSection innermost.name)
  | piece :: rest =>
    match piece.problem? opened with
    | some problem => some (written, problem)
    | none => misnesting? (written ++ piece.toChars) (piece.sections written opened) rest

/-- Nothing is wrong with any of the pieces, given what is open before them. -/
def Agree (written : List Char) (opened : List Opened) (pieces : List Piece) : Prop :=
  ∀ before piece behind, pieces = before ++ piece :: behind →
    piece.problem? (openFrom written opened before) = none

section

variable {written : List Char} {opened : List Opened} {piece : Piece} {pieces rest : List Piece}

theorem Agree.head (agree : Agree written opened (piece :: rest)) :
    piece.problem? opened = none :=
  agree [] piece rest rfl

theorem Agree.tail (agree : Agree written opened (piece :: rest)) :
    Agree (written ++ piece.toChars) (piece.sections written opened) rest := by
  intro before other behind equal
  exact agree (piece :: before) other behind (by rw [equal, List.cons_append])

theorem Agree.cons (first : piece.problem? opened = none)
    (others : Agree (written ++ piece.toChars) (piece.sections written opened) rest) :
    Agree written opened (piece :: rest) := by
  intro before other behind equal
  cases before with
  | nil =>
      rcases List.cons.inj equal with ⟨rfl, -⟩
      exact first
  | cons head tail =>
      rcases List.cons.inj equal with ⟨rfl, remaining⟩
      exact others tail other behind remaining

theorem agree_nil (written : List Char) (opened : List Opened) : Agree written opened [] := by
  simp [Agree]

instance decideAgree (written : List Char) (opened : List Opened) :
    (pieces : List Piece) → Decidable (Agree written opened pieces)
  | [] => isTrue (agree_nil written opened)
  | piece :: rest =>
    have := decideAgree (written ++ piece.toChars) (piece.sections written opened) rest
    decidable_of_iff
      (piece.problem? opened = none ∧
        Agree (written ++ piece.toChars) (piece.sections written opened) rest)
      ⟨fun both => .cons both.1 both.2, fun agree => ⟨agree.head, agree.tail⟩⟩

theorem misnesting?_append (agree : Agree written opened pieces) :
    misnesting? written opened (pieces ++ rest) =
      misnesting? (written ++ pieces.flatMap toChars) (openFrom written opened pieces) rest := by
  induction pieces generalizing written opened with
  | nil => rw [List.flatMap_nil, List.append_nil]; rfl
  | cons piece pieces induction =>
      rw [List.cons_append, misnesting?, agree.head, List.flatMap_cons, ← List.append_assoc]
      exact induction agree.tail

theorem misnesting?_eq_none_iff :
    misnesting? written opened pieces = none ↔
      Agree written opened pieces ∧ openFrom written opened pieces = [] := by
  induction pieces generalizing written opened with
  | nil =>
      rw [misnesting?, Option.map_eq_none_iff, List.head?_eq_none_iff, openFrom]
      exact (and_iff_right (agree_nil _ _)).symm
  | cons piece pieces induction =>
      rw [misnesting?, openFrom]
      cases found : piece.problem? opened with
      | some problem =>
          refine ⟨nofun, fun both => ?_⟩
          rw [both.1.head] at found
          cases found
      | none =>
          refine induction.trans (and_congr_left' ?_)
          exact ⟨Agree.cons found, Agree.tail⟩

/-- The piece that is found wrong is the first one, or a section is left open. -/
theorem exists_of_misnesting? {before : List Char} {problem : Problem}
    (found : misnesting? written opened pieces = some (before, problem)) :
    (∃ earlier piece behind, pieces = earlier ++ piece :: behind ∧
      Agree written opened earlier ∧
      piece.problem? (openFrom written opened earlier) = some problem ∧
      before = written ++ earlier.flatMap toChars) ∨
    (Agree written opened pieces ∧ ∃ innermost others,
      openFrom written opened pieces = innermost :: others ∧
      before = innermost.before ∧ problem = .unterminatedSection innermost.name) := by
  induction pieces generalizing written opened with
  | nil =>
      rcases Option.map_eq_some_iff.mp found with ⟨innermost, first, equal⟩
      cases equal
      rcases List.head?_eq_some_iff.mp first with ⟨others, shape⟩
      exact .inr ⟨agree_nil _ _, innermost, others, shape, rfl, rfl⟩
  | cons piece rest induction =>
      rw [misnesting?] at found
      split at found
      · next told =>
        cases found
        refine .inl ⟨[], piece, rest, rfl, agree_nil _ _, told, ?_⟩
        rw [List.flatMap_nil, List.append_nil]
      · next fine =>
        rcases induction found with
          ⟨earlier, other, behind, rfl, agree, told, same⟩ | ⟨agree, left⟩
        · refine .inl ⟨piece :: earlier, other, behind, rfl, .cons fine agree, told, ?_⟩
          rw [same, List.flatMap_cons, List.append_assoc]
        · exact .inr ⟨.cons fine agree, left⟩

/-- The sections open behind a piece start within what is written. -/
theorem before_of_mem_sections (within : ∀ one ∈ opened, one.before <+: written) :
    ∀ one ∈ piece.sections written opened, one.before <+: written := by
  intro one member
  cases piece with
  | plain text => exact within one member
  | tag content =>
      cases content with
      | leaf kind text | redelimit next => exact within one member
      | opening kind name =>
          rcases List.mem_cons.mp member with rfl | member
          · exact List.prefix_rfl
          · exact within one member
      | closing name => exact within one (List.mem_of_mem_tail member)

theorem prefix_of_misnesting? {before : List Char} {problem : Problem}
    (within : ∀ one ∈ opened, one.before <+: written)
    (found : misnesting? written opened pieces = some (before, problem)) :
    before <+: written ++ pieces.flatMap toChars := by
  induction pieces generalizing written opened with
  | nil =>
      rcases Option.map_eq_some_iff.mp found with ⟨innermost, first, equal⟩
      cases equal
      rw [List.flatMap_nil, List.append_nil]
      exact within innermost (List.mem_of_head? first)
  | cons piece rest induction =>
      rw [misnesting?] at found
      split at found
      · cases found
        exact List.prefix_append _ _
      · rw [List.flatMap_cons, ← List.append_assoc]
        refine induction ?_ found
        intro one member
        exact (before_of_mem_sections within one member).trans (List.prefix_append _ _)

theorem agree_iff_matched : Agree [] [] pieces ↔ Matched pieces := by
  constructor
  · intro agree before name behind equal
    have right := agree before _ behind equal
    rw [problem?.eq_def, ← stillOpen] at right
    cases opened : stillOpen before with
    | nil =>
        rw [opened] at right
        cases right
    | cons innermost others =>
        rw [opened] at right
        by_cases same : innermost.name = name
        · rw [List.head?_cons, Option.map_some, same]
        · simp [same] at right
  · intro matched before piece behind equal
    rw [← stillOpen]
    cases piece with
    | plain text => rfl
    | tag content =>
        cases content with
        | leaf kind text | redelimit next | opening kind name => rfl
        | closing name =>
            have right := matched before name behind equal
            cases opened : stillOpen before with
            | nil =>
                rw [opened] at right
                cases right
            | cons innermost others =>
                rw [opened, List.head?_cons, Option.map_some, Option.some_inj] at right
                simp [problem?, right]

instance : Decidable (Matched pieces) :=
  decidable_of_iff _ agree_iff_matched

/-- The problem that is found is the first offence against the nesting. -/
theorem firstOffence_of_misnesting? {before : List Char} {problem : Problem}
    (found : misnesting? [] [] pieces = some (before, problem)) :
    FirstOffence pieces before problem.message := by
  rcases exists_of_misnesting? found with
    ⟨earlier, piece, behind, place, agree, told, rfl⟩ | ⟨agree, innermost, others, opened, rfl, rfl⟩
  · rw [← stillOpen] at told
    have matched := agree_iff_matched.mp agree
    rcases piece with text | (_ | _ | _ | name)
    case tag.closing =>
      cases opened : stillOpen earlier with
      | nil =>
          rw [opened] at told
          cases told
          exact .unexpected place matched opened
      | cons innermost others =>
          rw [opened, problem?] at told
          split at told
          · cases told
          · next different =>
            cases told
            exact .mismatch place matched opened different
    all_goals cases told
  · exact .unterminated (agree_iff_matched.mp agree) opened

theorem misnesting?_of_firstOffence {before : List Char} {words : String}
    (offence : FirstOffence pieces before words) :
    ∃ problem, misnesting? [] [] pieces = some (before, problem) ∧ problem.message = words := by
  cases offence with
  | @unexpected before behind name place matched closed =>
      refine ⟨.unexpectedClosing name, ?_, rfl⟩
      rw [place, misnesting?_append (agree_iff_matched.mpr matched), ← stillOpen, closed]
      rfl
  | @mismatch before behind name innermost others place matched opened different =>
      refine ⟨.closingMismatch innermost.name name, ?_, rfl⟩
      rw [place, misnesting?_append (agree_iff_matched.mpr matched), ← stillOpen, opened,
        misnesting?, problem?, if_neg different]
      rfl
  | @unterminated innermost others matched opened =>
      refine ⟨.unterminatedSection innermost.name, ?_, rfl⟩
      rw [← List.append_nil pieces, misnesting?_append (agree_iff_matched.mpr matched),
        ← stillOpen, opened]
      rfl

end

/-! ## Pieces are read as tokens -/

/-- The lexemes of pieces behind a text: texts that follow one another are one. -/
def lexemes (text : List Char) : List Piece → List Lexeme
  | [] => (Token.plains text .standard).map Token.lexeme
  | plain more :: rest => lexemes (text ++ more.toList) rest
  | tag content :: rest =>
    (Token.plains text .standard).map Token.lexeme ++
      .tag content (String.ofList content.body) .standard :: lexemes [] rest

theorem toChars_lexemes (text : List Char) (pieces : List Piece) :
    (lexemes text pieces).flatMap Lexeme.toChars = text ++ pieces.flatMap toChars := by
  fun_induction lexemes text pieces with
  | case1 text => rw [flatMap_plains, List.flatMap_nil, List.append_nil]
  | case2 text more rest induction =>
      rw [induction, List.flatMap_cons, List.append_assoc]
      rfl
  | case3 text content rest induction =>
      rw [List.flatMap_append, flatMap_plains, List.flatMap_cons, induction, List.flatMap_cons]
      simp [Lexeme.toChars, toChars]

theorem tagBody_of_fits {content : TagContent} (fits : (tag content).Fits) :
    TagBody .standard (String.ofList content.body).toList content ∧
      content.next .standard = .standard := by
  cases content with
  | leaf kind text =>
      rw [String.toList_ofList]
      refine ⟨Draft.tagBody_of_leafFits ?_, rfl⟩
      cases kind with
      | name =>
          refine ⟨fits.1.1, ?_, clear_of_notMem fits.1.2.2⟩
          simpa [Option.any_eq_false] using fits.2
      | unescaped | inclusion => exact ⟨fits.1, clear_of_notMem fits.2.2⟩
      | triple => exact ⟨fits.1, clearOfBrace_of_notMem fits.2.2⟩
      | comment | pragma => exact clear_of_notMem fits.2
      | redelimit => cases fits
  | redelimit next => cases fits
  | opening kind name =>
      have made : namedContent? kind.sigil = some (.opening kind) := by cases kind <;> rfl
      exact ⟨Draft.tagBody_of_names made fits.1 (clear_of_notMem fits.2.2), rfl⟩
  | closing name =>
      have made : namedContent? '/' = some .closing := rfl
      exact ⟨Draft.tagBody_of_names made fits.1 (clear_of_notMem fits.2.2), rfl⟩

theorem legible_lexemes {text : List Char} {pieces : List Piece}
    (fits : ∀ piece ∈ pieces, piece.Fits) (free : '{' ∉ text) :
    Legible .standard (lexemes text pieces) := by
  have clear : Clear Markers.standard.opening text := clear_of_notMem free
  fun_induction lexemes text pieces with
  | case1 text =>
      rw [← List.append_nil (List.map _ _)]
      refine Legible.plains ?_ .nil
      rw [EndsBefore, String.toList_ofList]
      exact clear.not_within Markers.standard.opening_ne_nil
  | case2 text more rest induction =>
      rcases List.forall_mem_cons.mp fits with ⟨⟨-, braceless⟩, others⟩
      have both : '{' ∉ text ++ more.toList := by
        rw [List.mem_append, not_or]
        exact ⟨free, braceless.1⟩
      exact induction others both (clear_of_notMem both)
  | case3 text content rest induction =>
      rcases List.forall_mem_cons.mp fits with ⟨first, others⟩
      rcases tagBody_of_fits first with ⟨form, same⟩
      refine Legible.plains ?_ (.tag form ?_)
      · rwa [EndsBefore, String.toList_ofList]
      · rw [same]
        exact induction others List.not_mem_nil (clear_nil _)

end Piece

/-! ## What is built of the tokens -/

namespace Forest

/-- A frame stands for an open section. -/
def Frame.Stands (frame : Frame) (opened : Piece.Opened) : Prop :=
  frame.offset = opened.before.length ∧ frame.name = opened.name

/-- A forest is built, or else the problem is told that the nesting has. -/
def Reports (result : Except Defect Forest) : Option (List Char × Problem) → Prop
  | none => ∃ forest, result = .ok forest
  | some (before, problem) => result = .error ⟨before.length, problem⟩

theorem exists_of_plains {defect : Option Defect} {tokens : List Token} {text : List Char}
    {rest : List Lexeme} {frames : List Frame} {nodes : List Node} {offset : Nat}
    (shape : tokens.map Token.lexeme = (Token.plains text .standard).map Token.lexeme ++ rest)
    (placed : Token.Placed offset tokens) :
    ∃ others more, others.map Token.lexeme = rest ∧
      Token.Placed (offset + text.length) others ∧
      assemble defect tokens frames nodes = assemble defect others frames more := by
  cases text with
  | nil => exact ⟨tokens, nodes, shape, placed, rfl⟩
  | cons head tail =>
      rcases List.map_eq_cons_iff.mp shape with ⟨token, others, rfl, first, same⟩
      cases token with
      | tag content body markers span => cases first
      | plain said markers =>
          refine ⟨others, .plain said markers :: nodes, same, ?_, rfl⟩
          have length := placed.2
          cases first
          simpa [Token.lexeme, Lexeme.toChars] using length

/-- Tokens of pieces behind a text are nested just as the pieces are. -/
theorem reports_misnesting? {tokens : List Token} {frames : List Frame} {nodes : List Node}
    {written text : List Char} {opened : List Piece.Opened} {pieces : List Piece}
    (shape : tokens.map Token.lexeme = Piece.lexemes text pieces)
    (placed : Token.Placed written.length tokens)
    (stand : List.Forall₂ Frame.Stands frames opened) :
    Reports (assemble none tokens frames nodes)
      (Piece.misnesting? (written ++ text) opened pieces) := by
  -- The text is what the pieces have written since the last tag; it becomes a token with
  -- the next tag only, so the tokens are taken apart there.
  induction pieces generalizing tokens frames nodes written text opened with
  | nil =>
      have whole : tokens.map Token.lexeme =
          (Token.plains text .standard).map Token.lexeme ++ [] := by
        rw [List.append_nil]
        exact shape
      rcases exists_of_plains whole placed with ⟨others, more, nothing, -, same⟩
      rw [same, List.map_eq_nil_iff.mp nothing]
      cases stand with
      | nil => exact ⟨_, rfl⟩
      | cons stands _ => simp [Reports, assemble, Piece.misnesting?, stands.1, stands.2]
  | cons piece rest induction =>
      cases piece with
      | plain more =>
          have further : Reports (assemble none tokens frames nodes)
              (Piece.misnesting? (written ++ (text ++ more.toList)) opened rest) :=
            induction shape placed stand
          rwa [← List.append_assoc] at further
      | tag content =>
          rcases exists_of_plains shape placed with ⟨others, more, whole, along, same⟩
          rw [same]
          rcases List.map_eq_cons_iff.mp whole with ⟨token, behind, rfl, first, remaining⟩
          rw [← List.length_append] at along
          cases token with
          | plain said markers => cases first
          | tag content body markers span =>
          cases first
          rcases along with ⟨here, along⟩
          have offset : span.offset = (written ++ text).length := here _ rfl
          have further : Token.Placed
              (written ++ text ++ (Piece.tag content).toChars).length behind := by
            simpa [Token.lexeme, Lexeme.toChars, Piece.toChars, Nat.add_assoc] using along
          have step {frames nodes opened} (stand : List.Forall₂ Frame.Stands frames opened) :
              Reports (assemble none behind frames nodes) (Piece.misnesting?
                (written ++ text ++ (Piece.tag content).toChars) opened rest) := by
            rw [← List.append_nil (written ++ text ++ _)]
            exact induction remaining further stand
          cases content with
          | leaf kind said | redelimit next => exact step stand
          | opening kind name => exact step (.cons ⟨offset, rfl⟩ stand)
          | closing name =>
              cases stand with
              | nil => exact congrArg _ (congrArg₂ _ offset rfl)
              | @cons frame innermost frames opened stands stand =>
                  rw [assemble, Piece.misnesting?, Piece.problem?, stands.2]
                  by_cases equal : innermost.name = name
                  · simp only [if_pos equal]
                    exact step stand
                  · simp only [if_neg equal, Reports, offset]

end Forest

namespace Template

/-- The source is refused, at the place behind a text and in these words. -/
def Refuses (name source : String) (before : List Char) (words : String) : Prop :=
  ∃ fault, parse name source = .error fault ∧ fault.template = name ∧
    fault.position = .behind before ∧ fault.problem.message = words

end Template

namespace Piece

theorem reports_source {pieces : List Piece} (fits : ∀ piece ∈ pieces, piece.Fits) :
    Forest.Reports (Forest.ofTokens (.read (source pieces).toList)) (misnesting? [] [] pieces) := by
  have legible := legible_lexemes fits List.not_mem_nil
  have written : (Cursor.start (source pieces).toList).unread =
      (lexemes [] pieces).flatMap Lexeme.toChars := by
    rw [toChars_lexemes, source, String.toList_ofList]
    rfl
  rcases readFrom_of_legible _ Markers.sound_standard legible written [] with ⟨tokens, read, shape⟩
  rcases Token.placed_of_readFrom (.start (source pieces).toList) .standard [] with
    ⟨others, same, placed⟩
  rw [read] at same
  cases same
  rw [TokenSequence.read, read]
  have start : Token.Placed ([] : List Char).length tokens := placed
  exact Forest.reports_misnesting? shape start .nil

theorem exists_parse_source {pieces : List Piece} (fits : ∀ piece ∈ pieces, piece.Fits)
    (name : String) (right : misnesting? [] [] pieces = none) :
    ∃ template, Template.parse name (source pieces) = .ok template := by
  have reports := reports_source fits
  rw [right] at reports
  rcases reports with ⟨forest, built⟩
  refine ⟨⟨name, forest⟩, ?_⟩
  simp only [Template.parse, built]

theorem parse_source_of_misnesting? {pieces : List Piece} (fits : ∀ piece ∈ pieces, piece.Fits)
    (name : String) {before : List Char} {problem : Problem}
    (found : misnesting? [] [] pieces = some (before, problem)) :
    Template.parse name (source pieces) = .error ⟨name, .behind before, problem⟩ := by
  have reports := reports_source fits
  rw [found, Forest.Reports] at reports
  have starts : before <+: (source pieces).toList := by
    rw [source, String.toList_ofList]
    exact prefix_of_misnesting? (List.forall_mem_nil _) found
  have place := Cursor.position_eq_behind (source pieces).toList before.length
  rw [← List.prefix_iff_eq_take.mp starts] at place
  simp only [Template.parse, reports, place]

/-- Pieces are the source of a template just if their tags match and no section is left
open. If they are not, the first offence is told. -/
theorem parse_source_of_fits {pieces : List Piece} (fits : ∀ piece ∈ pieces, piece.Fits)
    (name : String) :
    ((∃ template, Template.parse name (source pieces) = .ok template) ↔
      Matched pieces ∧ stillOpen pieces = []) ∧
    ((∃ template, Template.parse name (source pieces) = .ok template) ∨
      ∃ before words, FirstOffence pieces before words) ∧
    ∀ before words, FirstOffence pieces before words →
      Template.Refuses name (source pieces) before words := by
  have refused {before words} (offence : FirstOffence pieces before words) :
      Template.Refuses name (source pieces) before words := by
    rcases misnesting?_of_firstOffence offence with ⟨problem, found, said⟩
    exact ⟨_, parse_source_of_misnesting? fits name found, rfl, rfl, said⟩
  refine ⟨?_, ?_, fun _ _ => refused⟩
  · rw [← agree_iff_matched, stillOpen, ← misnesting?_eq_none_iff]
    refine ⟨?_, exists_parse_source fits name⟩
    rintro ⟨template, parsed⟩
    cases found : misnesting? [] [] pieces with
    | none => rfl
    | some result =>
        rw [parse_source_of_misnesting? fits name found] at parsed
        cases parsed
  · cases found : misnesting? [] [] pieces with
    | none => exact .inl (exists_parse_source fits name found)
    | some result => exact .inr ⟨_, _, firstOffence_of_misnesting? found⟩

/-- A section is closed under another name, behind a line and a tag that stands alone. -/
theorem parse_source_of_fits_mismatch :
    ∃ pieces : List Piece, (∀ piece ∈ pieces, piece.Fits) ∧
      source pieces = "é\n\x7b\x7b#a\x7d\x7d\x7b\x7bn\x7d\x7d\x7b\x7b/b\x7d\x7d" ∧
      (∃ before, Position.behind before = ⟨2, 12⟩ ∧
        Template.Refuses "page" (source pieces) before
          "closing tag name mismatch: expected `a`, found `b`") ∧
      ¬ ∃ template, Template.parse "page" (source pieces) = .ok template := by
  let before := [plain "é\n", tag (.opening .section "a"), tag (.leaf .name "n")]
  let pieces := before ++ [tag (.closing "b")]
  have fits : ∀ piece ∈ pieces, piece.Fits := by decide
  rcases parse_source_of_fits fits "page" with ⟨parsed, -, refused⟩
  have opened : stillOpen before = [⟨"é\n".toList, "a"⟩] := by decide
  have place : pieces = before ++ tag (.closing "b") :: [] := rfl
  have offence := FirstOffence.mismatch place (by decide) opened (by decide)
  have words : "closing tag name mismatch: expected `" ++ "a" ++ "`, found `" ++ "b" ++ "`" =
      "closing tag name mismatch: expected `a`, found `b`" := by decide
  have refusal := refused _ _ offence
  rw [words] at refusal
  have position : Position.behind (before.flatMap toChars) = ⟨2, 12⟩ := by decide
  have unmatched : ¬ (Matched pieces ∧ stillOpen pieces = []) := by decide
  exact ⟨pieces, fits, by decide, ⟨_, position, refusal⟩, fun found => unmatched (parsed.mp found)⟩

end Piece

end Mustache
