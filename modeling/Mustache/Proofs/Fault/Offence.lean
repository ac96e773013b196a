import Mustache.Proofs.OpenSections
import Mustache.Proofs.Token.Run

namespace Mustache

/-! The tag that a source is refused for. The reader comes to it with all tags before it read
and matched, and what is wrong is told from the tag and the sections that are open there;
only for a section without an end the rest of the source has to be known. -/

namespace Forest

open Token

/-- The reader comes to a tag, and all is built before it. The first cursor stands behind
the tag before it, the second one behind its opening mark; between them is the text in
front of the mark. -/
inductive Meets (source : List Char) (frames : List Frame) (last : Cursor) (text : List Char)
    (inside : Cursor) (markers : Markers) : Prop where
  | intro {tokens : List Token} {nodes : List Node}
      (reads : Reads (.start source) .standard tokens last markers)
      (builds : Builds [] [] tokens frames nodes)
      (opened : last.readUntil? markers.opening = some (text, inside))

/-- What is wrong with a tag whose opening mark has been read, where these sections are
open. -/
inductive Trouble (inside : Cursor) (markers : Markers) (frames : List Frame) :
    Problem → Prop where
  | unread {problem : Problem} (failed : inside.readTag markers = .error problem) :
      Trouble inside markers frames problem
  | unmatched {name : String} {after : Cursor} {problem : Problem}
      (read : inside.readTag markers = .ok (.closing name, after))
      (unmatched : Unmatched name frames problem) : Trouble inside markers frames problem
  /-- The section that the tag opens is not closed. -/
  | unterminated {kind : GroupKind} {name : String} {after : Cursor}
      (read : inside.readTag markers = .ok (.opening kind name, after)) :
      Trouble inside markers frames (.unterminatedSection name)

/-- The tag at an offset has a problem. -/
inductive Offence (source : List Char) : Defect → Prop where
  | intro {frames : List Frame} {last inside : Cursor} {text : List Char} {markers : Markers}
      {problem : Problem} (meets : Meets source frames last text inside markers)
      (trouble : Trouble inside markers frames problem) :
      Offence source ⟨last.offset + text.length, problem⟩

variable {source text : List Char} {frames others : List Frame} {last inside after : Cursor}
  {markers : Markers} {tokens earlier later : List Token} {nodes built : List Node}
  {content : TagContent} {body : String} {span : Span} {problem : Problem}

/-- Where a tag stands that has been read, the reader came to it. -/
theorem exists_meets (reads : Reads (.start source) .standard tokens last markers)
    {between : Markers} (place : tokens = earlier ++ .tag content body between span :: later)
    (builds : Builds [] [] earlier others built) :
    ∃ middle text inside after, Meets source others middle text inside between ∧
      span.offset = middle.offset + text.length ∧
      inside.readTag between = .ok (content, after) := by
  rcases reads.exists_of_tag place with
    ⟨passed, middle, text, inside, after, before, opened, read, rfl, same⟩
  rcases builds.divide with ⟨frames, nodes, first, plain⟩
  cases plain.eq_of_plains
  exact ⟨middle, text, inside, after, .intro before first opened,
    same.trans (offset_before opened), read⟩

/-- The innermost open section is left open by the tag that opened it. -/
theorem offence_of_frame {frame : Frame}
    (reads : Reads (.start source) .standard tokens last markers)
    (builds : Builds [] [] tokens (frame :: frames) nodes) :
    Offence source ⟨frame.offset, .unterminatedSection frame.name⟩ := by
  rcases builds.frame_of_mem List.mem_cons_self with absent | ⟨earlier, span, later, place, same⟩
  · cases absent
  · rw [place] at builds
    rcases builds.divide with ⟨others, built, first, -⟩
    rcases exists_meets reads place first with ⟨middle, text, inside, after, meets, offset, read⟩
    rw [← same, offset]
    exact .intro meets (.unterminated read)

/-- A tag that does not match is told before all that is wrong behind it. -/
theorem ofTokens_eq_of_stops {name : String}
    (reads : Reads (.start source) .standard tokens last markers) {between : Markers}
    (place : tokens = earlier ++ .tag (.closing name) body between span :: later)
    (builds : Builds [] [] earlier others built) (unmatched : Unmatched name others problem) :
    ofTokens (.read source) = .error ⟨span.offset, problem⟩ := by
  rcases reads.exists_tokens_read with ⟨rest, whole⟩
  rw [ofTokens, whole, place, List.append_assoc, builds.assemble_eq]
  exact assemble_of_unmatched unmatched _ _ _

/-- Whatever is wrong with a source, one of its tags has the problem. -/
theorem offence_of_error {defect : Defect} (failed : ofTokens (.read source) = .error defect) :
    Offence source defect := by
  rcases exists_reads (.start source) .standard with ⟨tokens, last, markers, reads, ends⟩
  rcases builds_or_stops [] [] tokens with ⟨frames, nodes, builds⟩ | ⟨place, builds, unmatched⟩
  · rcases ends with none | ⟨text, inside, problem, opened, unread⟩
    · have absent := Cursor.readUntil?_eq_none_iff.mp none
      rcases builds.exists_assemble_eq Option.none last.unread markers with ⟨built, same⟩
      rw [ofTokens, reads.read_eq_of_unmarked absent, same] at failed
      cases frames with
      | nil => cases failed
      | cons frame frames =>
          cases failed
          exact offence_of_frame reads builds
    · rcases builds.exists_assemble_eq (some _) text markers with ⟨built, same⟩
      rw [ofTokens, reads.read_eq_of_failed opened unread, same] at failed
      cases failed
      exact .intro (.intro reads builds opened) (.unread unread)
  · rw [ofTokens_eq_of_stops reads place builds unmatched] at failed
    cases failed
    rcases exists_meets reads place builds with ⟨middle, text, inside, after, meets, offset, read⟩
    rw [offset]
    exact .intro meets (.unmatched read unmatched)

/-- What is wrong with a tag is told, if it does not have to be known how the source goes on. -/
theorem Meets.ofTokens_eq (meets : Meets source frames last text inside markers)
    (trouble : Trouble inside markers frames problem) (firm : problem.isFirm = true) :
    ofTokens (.read source) = .error ⟨last.offset + text.length, problem⟩ := by
  rcases meets with ⟨reads, builds, opened⟩
  cases trouble with
  | unread failed =>
      rcases builds.exists_assemble_eq (some _) text markers with ⟨built, same⟩
      rw [ofTokens, reads.read_eq_of_failed opened failed, same]
      rfl
  | unmatched read unmatched =>
      rcases Cursor.passes_readTag read with ⟨body, inner⟩
      rcases builds_plains _ _ text markers with ⟨built, plain⟩
      have further := reads.append (.goesOn opened read .here)
      rw [ofTag_eq _ _ inner, offset_before opened, ← List.append_assoc] at further
      exact ofTokens_eq_of_stops further rfl (builds.append plain) unmatched
  | unterminated read => cases firm

end Forest

end Mustache
