import Mustache.Proofs.Extent
import Mustache.Proofs.Fault.Offence

namespace Mustache

/-! Where a fault is told. The place is that of one tag, the first one that cannot be read or
does not match, or the one whose section has no end. All before that tag is sound: read
alone, it is a template, or its only defect is that a section is still open. -/

open Text

/-- The reader of a source comes to each tag in turn. -/
theorem Token.Reads.comes {source : List Char} {cursor last : Cursor} {markers marks : Markers}
    {tokens : List Token} (reads : Reads cursor markers tokens last marks)
    (start : ∀ text inside, cursor.readUntil? markers.opening = some (text, inside) →
      Comes source inside markers) {text : List Char} {inside : Cursor}
    (opened : last.readUntil? marks.opening = some (text, inside)) :
    Comes source inside marks := by
  induction reads with
  | here => exact start _ _ opened
  | goesOn first read reads induction =>
      exact induction (fun _ _ => .next (start _ _ first) read) opened

/-- A tag begins at the offset, and the marks are in force there: the reader comes to the
tag with these marks, and they are the last ones that the source sets before the tag. -/
structure TagAt (source : List Char) (offset : Nat) (markers : Markers) : Prop where
  comes : ∃ inside, Token.Comes source inside markers ∧
    inside.offset = offset + markers.opening.length
  inForce : (TokenSequence.read (source.take offset)).lastMarkers = markers
  opening : markers.opening <+: source.drop offset

/-- The fault is told at the offset, and at no other place of the source. -/
structure Fault.ToldAt (fault : Fault) (source : List Char) (offset : Nat) : Prop where
  within : offset ≤ source.length
  position : (Cursor.start source).position offset = fault.position
  alone : ∀ other ≤ source.length,
    (Cursor.start source).position other = fault.position → other = offset

namespace Forest.Meets

variable {source text : List Char} {frames : List Frame} {last inside : Cursor} {markers : Markers}

/-- The text in front of the tag and the tag itself follow what has been read. -/
theorem exists_parts (meets : Meets source frames last text inside markers) :
    ∃ before : List Char, source = before ++ text ++ (markers.opening ++ inside.unread) ∧
      last.unread = text ++ (markers.opening ++ inside.unread) ∧
      last.offset + text.length = (before ++ text).length := by
  rcases meets with ⟨reads, builds, opened⟩
  rcases reads.exists_passes with ⟨before, passes⟩
  have view := (Cursor.passes_readUntil? opened).unread
  rw [List.append_assoc] at view
  refine ⟨before, ?_, view, ?_⟩
  · rw [List.append_assoc, ← view]
    exact passes.unread
  · rw [passes.offset, List.length_append]
    exact congrArg (· + _) (Nat.zero_add _)

theorem offset_le (meets : Meets source frames last text inside markers) :
    last.offset + text.length ≤ source.length := by
  rcases meets.exists_parts with ⟨before, whole, -, offset⟩
  have starts : before ++ text <+: source := ⟨_, whole.symm⟩
  rw [offset]
  exact starts.length_le

theorem drop_eq (meets : Meets source frames last text inside markers) :
    source.drop (last.offset + text.length) = markers.opening ++ inside.unread := by
  rcases meets.exists_parts with ⟨before, whole, -, offset⟩
  rw [offset, whole, List.drop_left]

/-- The text before the tag is read in the same way where the source ends with it. -/
theorem exists_read_before (meets : Meets source frames last text inside markers) :
    ∃ tokens nodes, Builds [] [] tokens frames nodes ∧
      TokenSequence.read (source.take (last.offset + text.length)) =
        ⟨tokens ++ Token.plains text markers, none⟩ ∧
      tokens.foldl (fun markers token => token.lexeme.next markers) .standard = markers := by
  rcases meets.exists_parts with ⟨-, -, view, -⟩
  rw [← meets.drop_eq] at view
  rcases meets with ⟨reads, builds, opened⟩
  rw [← List.take_append_drop (last.offset + text.length) source, ← Cursor.extend_start] at reads
  rcases reads.exists_of_extend Markers.sound_standard view with ⟨shorter, shown, same, reads⟩
  have clear := (Cursor.readUntil?_eq_some_iff.mp opened).1
  have absent : ¬ markers.opening <:+: shorter.unread := by
    rw [same]
    exact clear.not_within markers.opening_ne_nil
  refine ⟨_, _, builds, ?_, reads.marks_eq.symm⟩
  rw [reads.read_eq_of_unmarked absent, same]

theorem tagAt (meets : Meets source frames last text inside markers) :
    TagAt source (last.offset + text.length) markers := by
  rcases meets.exists_read_before with ⟨tokens, nodes, -, whole, marks⟩
  refine ⟨⟨inside, ?_, ?_⟩, ?_, ?_⟩
  · rcases meets with ⟨reads, builds, opened⟩
    exact reads.comes (fun _ _ => .first) opened
  · rcases meets with ⟨reads, builds, opened⟩
    rw [(Cursor.passes_readUntil? opened).offset, List.length_append, Nat.add_assoc]
  · rw [whole, TokenSequence.lastMarkers, List.foldl_append, marks]
    unfold Token.plains
    split <;> rfl
  · rw [meets.drop_eq]
    exact List.prefix_append _ _

/-- All before the tag is built, and the sections that are open at the tag are left open. -/
theorem ofTokens_before (meets : Meets source frames last text inside markers) :
    (∃ forest, ofTokens (.read (source.take (last.offset + text.length))) = .ok forest) ∨
      ∃ offset name, ofTokens (.read (source.take (last.offset + text.length))) =
        .error ⟨offset, .unterminatedSection name⟩ := by
  rcases meets.exists_read_before with ⟨tokens, nodes, builds, whole, -⟩
  rcases builds.exists_assemble_eq none text markers with ⟨built, same⟩
  rw [ofTokens, whole, same]
  cases frames with
  | nil => exact .inl ⟨_, rfl⟩
  | cons frame frames => exact .inr ⟨_, _, rfl⟩

end Forest.Meets

namespace Template

theorem parse_of_ofTokens {source : List Char} {forest : Forest}
    (built : Forest.ofTokens (.read source) = .ok forest) (name : String) :
    parse name (String.ofList source) = .ok ⟨name, forest⟩ := by
  simp only [parse, String.toList_ofList, built]

theorem parse_of_defect {source : List Char} {defect : Defect}
    (failed : Forest.ofTokens (.read source) = .error defect) (name : String) :
    parse name (String.ofList source) =
      .error ⟨name, (Cursor.start source).position defect.offset, defect.problem⟩ := by
  simp only [parse, String.toList_ofList, failed]

theorem exists_defect_of_parse {name source : String} {fault : Fault}
    (failed : parse name source = .error fault) :
    ∃ defect, Forest.ofTokens (.read source.toList) = .error defect ∧
      fault = ⟨name, (Cursor.start source.toList).position defect.offset, defect.problem⟩ := by
  rw [parse] at failed
  split at failed
  · cases failed
  · next defect told =>
    cases failed
    exact ⟨defect, told, rfl⟩

/-- The fault of a source that is no template. -/
def fault? (name source : String) : Option Fault :=
  match parse name source with
  | .ok _ => none
  | .error fault => some fault

theorem fault?_eq_some_iff {name source : String} {fault : Fault} :
    fault? name source = some fault ↔ parse name source = .error fault := by
  rw [fault?]
  cases parse name source with
  | ok template => exact ⟨nofun, nofun⟩
  | error told => rw [Option.some_inj, Except.error.injEq]

instance (name source : String) (fault : Fault) :
    Decidable (parse name source = .error fault) :=
  decidable_of_iff _ fault?_eq_some_iff

/-- A fault of a source is told under the name of the template and at one offset only. The
tag that has the problem begins there, and the text before it is either a template or lacks
nothing but the end of a section. -/
theorem parse_error_located {name source : String} {fault : Fault}
    (failed : parse name source = .error fault) :
    fault.template = name ∧ ∃ offset markers, fault.ToldAt source.toList offset ∧
      TagAt source.toList offset markers ∧
      Forest.Offence source.toList ⟨offset, fault.problem⟩ ∧
      ((∃ template, parse name (String.ofList (source.toList.take offset)) = .ok template) ∨
        ∃ earlier, parse name (String.ofList (source.toList.take offset)) = .error earlier ∧
          ∃ unended, earlier.problem = .unterminatedSection unended) := by
  rcases exists_defect_of_parse failed with ⟨defect, told, rfl⟩
  rcases Forest.offence_of_error told with ⟨meets, trouble⟩
  refine ⟨rfl, _, _, ⟨meets.offset_le, rfl, ?_⟩, meets.tagAt, .intro meets trouble, ?_⟩
  · intro other bound same
    exact Cursor.position_injective bound meets.offset_le same
  · rcases meets.ofTokens_before with ⟨forest, built⟩ | ⟨offset, unended, left⟩
    · exact .inl ⟨_, parse_of_ofTokens built name⟩
    · exact .inr ⟨_, parse_of_defect left name, unended, rfl⟩

/-- A closing tag between other marks than at the start, on the third line. The text before
it leaves a section open. -/
theorem parse_error_located_third_line :
    let source := "é\n\x7b\x7b=<| |>=\x7d\x7d<|#a|>\n <|/b|>"
    let fault : Fault := ⟨"page", ⟨3, 2⟩, .closingMismatch "a" "b"⟩
    parse "page" source = .error fault ∧ fault.template = "page" ∧
      ∃ offset markers, fault.ToldAt source.toList offset ∧ TagAt source.toList offset markers ∧
        Forest.Offence source.toList ⟨offset, fault.problem⟩ ∧
        ((∃ template, parse "page" (String.ofList (source.toList.take offset)) = .ok template) ∨
          ∃ earlier, parse "page" (String.ofList (source.toList.take offset)) = .error earlier ∧
            ∃ unended, earlier.problem = .unterminatedSection unended) := by
  intro source fault
  have failed : parse "page" source = .error fault := by decide +kernel
  exact ⟨failed, parse_error_located failed⟩

end Template

end Mustache
