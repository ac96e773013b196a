import Mustache.Proofs.Fault.Location

namespace Mustache

/-! Faults that more text does not mend. Where a name or a mark is missing in a tag that
stands there in full, or a closing tag does not match, the reader has seen all that matters,
so the source is refused in the same words and at the same place however it goes on. -/

namespace Problem

/-- How the messages of these problems begin. -/
def firmWords : List String :=
  ["missing tag name", "unexpected closing tag", "closing tag name mismatch",
    "set-delimiters tag needs"]

/-- The message begins in one of these ways. -/
def BeginsFirm (problem : Problem) : Prop :=
  ∃ words ∈ firmWords, words.toList <+: problem.message.toList

/-- The words of a message before any that are taken from the source. -/
def stem : Problem → String
  | unclosedTag => "unclosed tag"
  | missingName => "missing tag name"
  | missingBrace _ => "unescaped tag must end with `\x7d"
  | unclosedRedelimit => "unclosed set-delimiters tag"
  | malformedRedelimit _ => "malformed set-delimiters tag, expected `"
  | missingMark => "set-delimiters tag needs an open and a close marker"
  | unexpectedClosing _ => "unexpected closing tag `"
  | closingMismatch _ _ => "closing tag name mismatch: expected `"
  | unterminatedSection _ => "unterminated section `"

theorem stem_prefix_message (problem : Problem) :
    problem.stem.toList <+: problem.message.toList := by
  have whole : ∃ rest, problem.message = problem.stem ++ rest := by
    cases problem with
    | unclosedTag | missingName | unclosedRedelimit | missingMark =>
        exact ⟨"", String.append_empty.symm⟩
    | missingBrace text | malformedRedelimit text | unexpectedClosing text
    | unterminatedSection text => exact ⟨text ++ "`", String.append_assoc⟩
    | closingMismatch expected found =>
        refine ⟨expected ++ "`, found `" ++ found ++ "`", ?_⟩
        unfold message stem
        simp only [String.append_assoc]
  rcases whole with ⟨rest, same⟩
  rw [same, String.toList_append]
  exact List.prefix_append _ _

/-- The first words of a message tell whether its problem is one of these. -/
theorem beginsFirm_iff {problem : Problem} : problem.BeginsFirm ↔ problem.isFirm = true := by
  constructor
  · rintro ⟨words, member, begins⟩
    have overlap : ∃ words ∈ firmWords,
        words.toList <+: problem.stem.toList ∨ problem.stem.toList <+: words.toList :=
      ⟨words, member, List.prefix_or_prefix_of_prefix begins problem.stem_prefix_message⟩
    cases problem with
    | missingName | missingMark | unexpectedClosing | closingMismatch => rfl
    | _ =>
        simp only [stem] at overlap
        exact absurd overlap (by decide)
  · intro firm
    have begins : ∃ words ∈ firmWords, words.toList <+: problem.stem.toList := by
      cases problem with
      | missingName | missingMark | unexpectedClosing | closingMismatch =>
          simp only [stem]
          decide
      | _ => cases firm
    rcases begins with ⟨words, member, begins⟩
    exact ⟨words, member, begins.trans problem.stem_prefix_message⟩

end Problem

/-! ## Tags in a longer source -/

namespace Forest

variable {source text more : List Char} {frames : List Frame} {last inside : Cursor}
  {markers : Markers} {problem : Problem}

theorem Trouble.extend (trouble : Trouble inside markers frames problem) (sound : markers.Sound)
    (firm : problem.isFirm = true) (more : List Char) :
    Trouble (inside.extend more) markers frames problem := by
  cases trouble with
  | unread failed => exact .unread (Cursor.readTag_extend_of_error sound firm failed more)
  | unmatched read unmatched =>
      exact .unmatched ((Cursor.readTag_extend_iff sound).mpr read) unmatched
  | unterminated read => cases firm

theorem Meets.sound (meets : Meets source frames last text inside markers) : markers.Sound := by
  rcases meets with ⟨reads, builds, opened⟩
  exact reads.sound Markers.sound_standard

theorem Meets.extend (meets : Meets source frames last text inside markers) (more : List Char) :
    Meets (source ++ more) frames (last.extend more) text (inside.extend more) markers := by
  rcases meets with ⟨reads, builds, opened⟩
  exact .intro (reads.extend Markers.sound_standard more) builds
    (Cursor.readUntil?_extend_iff.mpr opened)

/-- The defect of a tag that stands there in full is found in the longer source, too. -/
theorem ofTokens_append {defect : Defect} (failed : ofTokens (.read source) = .error defect)
    (firm : defect.problem.isFirm = true) (more : List Char) :
    ofTokens (.read (source ++ more)) = .error defect ∧ defect.offset ≤ source.length := by
  rcases offence_of_error failed with ⟨meets, trouble⟩
  exact ⟨(meets.extend more).ofTokens_eq (trouble.extend meets.sound firm more) firm,
    meets.offset_le⟩

end Forest

theorem Cursor.position_append {source : List Char} {offset : Nat}
    (within : offset ≤ source.length) (more : List Char) :
    (start (source ++ more)).position offset = (start source).position offset := by
  rw [position_eq_behind, position_eq_behind, List.take_append_of_le_length within]

namespace Template

/-- A fault that more text does not mend is told of every longer source, in the same words
and at the same place. -/
theorem parse_append_of_error {name source : String} {fault : Fault}
    (failed : parse name source = .error fault) (begins : fault.problem.BeginsFirm)
    (more : String) : parse name (source ++ more) = .error fault := by
  rcases exists_defect_of_parse failed with ⟨defect, told, rfl⟩
  have firm := Problem.beginsFirm_iff.mp begins
  rcases Forest.ofTokens_append told firm more.toList with ⟨further, within⟩
  have whole := parse_of_defect further name
  rw [← String.toList_append, String.ofList_toList] at whole
  rw [whole, String.toList_append, Cursor.position_append within]

/-- The brace behind the name is missing no more with the text behind, and yet the tag has
no name. -/
theorem parse_append_of_error_triple :
    let source := "\x7b\x7b#a\x7d\x7dé\n\x7b\x7b=<| |>=\x7d\x7d<|\x7b \x7d|>"
    let fault : Fault := ⟨"page", ⟨2, 12⟩, .missingName⟩
    parse "page" source = .error fault ∧ fault.problem.BeginsFirm ∧
      parse "page" (source ++ "\x7d|><|/b|><|") = .error fault := by
  intro source fault
  have failed : parse "page" source = .error fault := by decide +kernel
  have begins : fault.problem.BeginsFirm := Problem.beginsFirm_iff.mpr rfl
  exact ⟨failed, begins, parse_append_of_error failed begins _⟩

end Template

end Mustache
