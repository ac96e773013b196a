import Mustache.Parser
import Mustache.Proofs.Arena
import Mustache.Proofs.OpenSections
import Mustache.Proofs.Scanner.Reading
import Mustache.Proofs.Token.Run

namespace Mustache

/-! Reading a template in one pass. Where some sections are open and some nodes are built, a round
of the parser does what building the forest from one more token does. So no round breaks a
condition, and in the end the arena is that of the template. -/

open Text

namespace Parser

open Cursor (Passes)
open Forest (Frame Builds Unmatched)

variable {name : String} {scanner : Scanner} {markers : Markers} {pragmas : List Pragma}
  {groups : List (Nat × Nat)} {frames others : List Frame} {nodes built : List Node}
  {frame : Frame} {tag : Tag} {inside : List Tag}

/-! ## The arena -/

/-- The parser where these sections are open and these nodes are built. -/
def building (name : String) (scanner : Scanner) (markers : Markers) (frames : List Frame)
    (nodes : List Node) : Parser where
  name := name
  scanner := scanner
  markers := markers
  tags := (Forest.tags frames nodes).toArray
  roots := Forest.rootsOf frames (Forest.numbers frames nodes)
  openGroups := Forest.groups frames
  pragmas := Forest.pragmasOf frames nodes

/-- The parser with one more tag, behind which there are the tags inside it. -/
def holding (name : String) (scanner : Scanner) (markers : Markers) (pragmas : List Pragma)
    (groups : List (Nat × Nat)) (frames : List Frame) (nodes : List Node) (tag : Tag)
    (inside : List Tag) : Parser where
  name := name
  scanner := scanner
  markers := markers
  tags := (Forest.tagsBefore frames nodes ++ tag :: inside).toArray
  roots := Forest.rootsOf frames (Forest.numbersWith frames nodes)
  openGroups := groups
  pragmas := pragmas

@[simp] theorem scanner_building :
    (building name scanner markers frames nodes).scanner = scanner := rfl

@[simp] theorem markers_building :
    (building name scanner markers frames nodes).markers = markers := rfl

@[simp] theorem moveTo_building (after : Scanner) :
    (building name scanner markers frames nodes).moveTo after =
      building name after markers frames nodes := rfl

/-! A tag is found behind as many others as its number tells. -/

section

variable {parser : Parser} {front back : List Tag} {number : Nat}

theorem holds_numbers (view : parser.tags = (front ++ tag :: back).toArray)
    (place : front.length = number) : Condition.Holds (.numbers number parser.tags.size) := by
  simp [Condition.Holds, view, ← place]

theorem tag_of_tags (view : parser.tags = (front ++ tag :: back).toArray)
    (place : front.length = number) : parser.tag number = pure tag := by
  rw [Parser.tag, Run.rely_of_holds (holds_numbers view place), pure_bind, view]
  simp [← place]

theorem change_of_tags (view : parser.tags = (front ++ tag :: back).toArray)
    (place : front.length = number) (modify : Tag → Tag) :
    parser.change number modify =
      pure { parser with tags := (front ++ modify tag :: back).toArray } := by
  have changed : (front ++ tag :: back).modify number modify = front ++ modify tag :: back := by
    rw [← place]
    exact List.modifyTailIdx_add _ 0 front (tag :: back)
  rw [change, Run.rely_of_holds (holds_numbers view place), pure_bind, view, List.modify_toArray,
    changed]

end

theorem change_holding (modify : Tag → Tag) :
    (holding name scanner markers pragmas groups frames nodes tag inside).change
        (Forest.next frames nodes) modify =
      pure (holding name scanner markers pragmas groups frames nodes (modify tag) inside) :=
  change_of_tags rfl Forest.length_tagsBefore modify

/-- A tag is pushed in the same way whatever pragmas are noted down. -/
theorem push_noted (pragmas : List Pragma) (kind : TagKind) (text : String) :
    { building name scanner markers frames nodes with pragmas := pragmas }.push kind text =
      pure (Forest.next frames nodes,
        holding name scanner markers pragmas (Forest.groups frames) frames nodes
          (.start kind text markers (Forest.group? frames)) []) := by
  have number : (Forest.tags frames nodes).toArray.size = Forest.next frames nodes := by
    rw [List.size_toArray, Forest.length_tags]
  rw [push]
  simp only [building, Forest.head?_groups, number, List.push_toArray]
  cases frames with
  | nil => rfl
  | cons frame frames =>
      -- The innermost open section gets a child.
      simp only [Forest.tags_of_open, List.append_assoc, List.cons_append, Forest.group?]
      rw [change_of_tags rfl Forest.length_tagsBefore, pure_bind]
      simp only [holding, Forest.tagsBefore_of_open, List.append_assoc, List.cons_append]
      rfl

theorem push_building (kind : TagKind) (text : String) :
    (building name scanner markers frames nodes).push kind text =
      pure (Forest.next frames nodes,
        holding name scanner markers (Forest.pragmasOf frames nodes) (Forest.groups frames) frames
          nodes (.start kind text markers (Forest.group? frames)) []) :=
  push_noted (Forest.pragmasOf frames nodes) kind text

theorem holding_eq_building {node : Node}
    (laid : (node.outline (Forest.group? frames) (Forest.next frames nodes)).map OutlineItem.tag =
      tag :: inside) :
    holding name scanner markers (Forest.pragmasOf frames (node :: nodes)) (Forest.groups frames)
        frames nodes tag inside =
      building name scanner markers frames (node :: nodes) := by
  rw [holding, building, Forest.tags_cons, laid, Forest.numbers_cons]

/-- A section is opened by its tag. -/
theorem holding_eq_open (frame : Frame) :
    holding name scanner markers (Forest.pragmasOf frames frame.siblings)
        (Forest.groups (frame :: frames)) frames frame.siblings
        (frame.tag (Forest.group? frames) []) [] =
      building name scanner markers (frame :: frames) [] := by
  rw [holding, building, Forest.tags_of_open, Forest.pragmasOf_of_open]
  rfl

/-- The nodes of a section that is closed become its children. -/
theorem holding_eq_closed (body : String) (marks : Markers) :
    holding name scanner markers (Forest.pragmasOf (frame :: frames) nodes) (Forest.groups frames)
        frames frame.siblings
        { frame.tag (Forest.group? frames) (Forest.numbers (frame :: frames) nodes) with
          closeBody := body, closeMarkers := some marks }
        (Forest.tagsIn (frame :: frames) nodes) =
      building name scanner markers frames
        (.group frame.kind frame.name frame.body frame.markers nodes.reverse body marks ::
          frame.siblings) := by
  rw [Forest.pragmasOf_of_closed]
  exact holding_eq_building rfl

/-! ## One token -/

theorem enter_of_leaf? {content : TagContent} {leaf : LeafKind} {text : String}
    (stands : content.leaf? = some (leaf, text)) (offset : Nat) (body : String) :
    (building name scanner markers frames nodes).enter offset content =
      pure (Forest.next frames nodes, false,
        holding name scanner (content.next markers)
          (Forest.pragmasOf frames (.leaf leaf text body markers :: nodes)) (Forest.groups frames)
          frames nodes (.start (.leaf leaf) text markers (Forest.group? frames)) []) := by
  rw [Forest.pragmasOf_cons]
  cases content with
  | leaf kind said =>
      cases stands
      -- Only a pragma is noted down as well.
      cases leaf with
      | pragma =>
          rw [enter, push_noted]
          rfl
      | name | unescaped | triple | comment | inclusion | redelimit =>
          simp only [enter, push_building, pure_bind, Node.pragmas, List.append_nil]
          rfl
  | redelimit next =>
      cases stands
      simp only [enter, push_building, pure_bind, Node.pragmas, List.append_nil]
      rfl
  | opening group said => cases stands
  | closing said => cases stands

theorem enter_opening (offset : Nat) (group : GroupKind) (text : String) :
    (building name scanner markers frames nodes).enter offset (.opening group text) =
      pure (Forest.next frames nodes, false,
        holding name scanner markers (Forest.pragmasOf frames nodes)
          ((Forest.next frames nodes, offset) :: Forest.groups frames) frames nodes
          (.start (.group group) text markers (Forest.group? frames)) []) := by
  rw [enter, push_building]
  rfl

theorem tags_building : (building name scanner markers (frame :: frames) nodes).tags =
    (Forest.tagsBefore frames frame.siblings ++
      frame.tag (Forest.group? frames) (Forest.numbers (frame :: frames) nodes) ::
        Forest.tagsIn (frame :: frames) nodes).toArray := by
  rw [building, Forest.tags_of_open]

theorem tag_building : (building name scanner markers (frame :: frames) nodes).tag
    (Forest.next frames frame.siblings) =
      pure (frame.tag (Forest.group? frames) (Forest.numbers (frame :: frames) nodes)) :=
  tag_of_tags tags_building Forest.length_tagsBefore

theorem openGroups_building : (building name scanner markers (frame :: frames) nodes).openGroups =
    (Forest.next frames frame.siblings, frame.offset) :: Forest.groups frames := rfl

theorem enter_closing (offset : Nat) :
    (building name scanner markers (frame :: frames) nodes).enter offset (.closing frame.name) =
      pure (Forest.next frames frame.siblings, true,
        holding name scanner markers (Forest.pragmasOf (frame :: frames) nodes)
          (Forest.groups frames) frames frame.siblings
          { frame.tag (Forest.group? frames) (Forest.numbers (frame :: frames) nodes) with
            closeMarkers := some markers }
          (Forest.tagsIn (frame :: frames) nodes)) := by
  have same : ¬ (frame.tag (Forest.group? frames)
      (Forest.numbers (frame :: frames) nodes)).text ≠ frame.name := fun different => different rfl
  have popped : { building name scanner markers (frame :: frames) nodes with
      openGroups := Forest.groups frames }.tags =
        (building name scanner markers (frame :: frames) nodes).tags := rfl
  simp only [enter, closeGroup, openGroups_building, tag_building, pure_bind, if_neg same]
  rw [change_of_tags (popped.trans tags_building) Forest.length_tagsBefore]
  rfl

/-- A closing tag that does not match is told in the same way. -/
theorem enter_of_unmatched {text : String} {problem : Problem}
    (unmatched : Unmatched text frames problem) (offset : Nat) :
    (building name scanner markers frames nodes).enter offset (.closing text) =
      Run.fail ⟨name, scanner.position offset, problem⟩ := by
  cases unmatched with
  | unexpected => rfl
  | @mismatch frame frames different =>
      have told : (frame.tag (Forest.group? frames)
          (Forest.numbers (frame :: frames) nodes)).text ≠ text := different
      simp only [enter, closeGroup, openGroups_building, tag_building, pure_bind, if_pos told]
      rfl

/-- What a token builds is in the arena when the body of its tag is cut out. -/
theorem exists_enter (name : String) (scanner : Scanner) {content : TagContent} {body : String}
    {span : Span} (builds : Builds frames nodes [.tag content body markers span] others built) :
    ∃ number closes after,
      (building name scanner markers frames nodes).enter span.offset content =
          pure (number, closes, after) ∧
        after.scanner = scanner ∧
        after.change number (·.setBody closes body) =
          pure (building name scanner (content.next markers) others built) := by
  cases builds with
  | leaf stands builds =>
      cases builds
      refine ⟨_, _, _, enter_of_leaf? stands span.offset body, rfl, ?_⟩
      rw [change_holding]
      exact congrArg pure (holding_eq_building rfl)
  | @opening _ _ _ _ kind text _ _ _ _ builds =>
      cases builds
      refine ⟨_, _, _, enter_opening span.offset kind text, rfl, ?_⟩
      rw [change_holding]
      exact congrArg pure (holding_eq_open ⟨kind, text, body, markers, span.offset, nodes⟩)
  | closing builds =>
      cases builds
      refine ⟨_, _, _, enter_closing span.offset, rfl, ?_⟩
      rw [change_holding]
      exact congrArg pure (holding_eq_closed body markers)

/-! ## Reading -/

variable {source passed : List Char} {content : TagContent} {cursor : Cursor} {offset : Nat}

theorem readTag_of_error {problem : Problem}
    (failed : scanner.view.readTag markers = .error problem) :
    (building name scanner markers frames nodes).readTag offset =
      Run.fail ⟨name, scanner.position offset, problem⟩ := by
  have follows := scanner.follows_readTag markers
  rw [failed] at follows
  cases follows with
  | fails same =>
      simp only [readTag, scanner_building, markers_building, same, Run.retell_fail, Run.fail_bind]
      rfl

/-- What was read before a mark is found again by its byte positions. -/
theorem cut_of_passes {after : Scanner} {body mark : List Char}
    (reached : Passes (.start source) passed scanner.view)
    (passes : Passes scanner.view (body ++ mark) after.view) :
    Condition.Holds (.covers after.byteOffset (byteLength mark)) ∧
      Condition.Holds
        (.encloses after.source scanner.byteOffset (after.byteOffset - byteLength mark)) ∧
      after.slice scanner.byteOffset (after.byteOffset - byteLength mark) = body := by
  have measured : after.byteOffset = scanner.byteOffset + byteLength (body ++ mark) :=
    passes.byteOffset
  rw [byteLength_append] at measured
  have first : scanner.byteOffset = byteLength passed :=
    reached.byteOffset.trans (Nat.zero_add _)
  have last : after.byteOffset - byteLength mark = byteLength (passed ++ body) := by
    rw [byteLength_append]
    omega
  have whole : after.source = passed ++ body ++ (mark ++ after.stream) := by
    have start : after.source = source := passes.source.trans reached.source
    have view : source = passed ++ scanner.stream := reached.unread
    have behind : scanner.stream = body ++ mark ++ after.stream := passes.unread
    rw [start, view, behind]
    simp
  have found :
      slice? after.source (byteLength passed) (byteLength (passed ++ body)) = some body := by
    rw [whole]
    exact slice?_append passed body _
  rw [last, first]
  refine ⟨?_, ?_, ?_⟩
  · simp only [Condition.Holds]
    omega
  · rw [Condition.Holds, found]
    rfl
  · rw [Scanner.slice, found]
    rfl

theorem exists_readTag {body : List Char} (reached : Passes (.start source) passed scanner.view)
    (read : scanner.view.readTag markers = .ok (content, cursor))
    (passes : Passes scanner.view (body ++ markers.closing) cursor)
    (builds : Builds frames nodes
      [.tag content (String.ofList body) markers
        ⟨offset, scanner.byteOffset, scanner.byteOffset + byteLength body⟩] others built) :
    ∃ after, after.view = cursor ∧
      (building name scanner markers frames nodes).readTag offset =
        pure (building name after (content.next markers) others built) := by
  have follows := scanner.follows_readTag markers
  rw [read] at follows
  cases follows with
  | @reads content after same =>
      refine ⟨after, rfl, ?_⟩
      rcases cut_of_passes reached passes with ⟨covered, enclosed, cut⟩
      rcases exists_enter name after builds with ⟨number, closes, entered, enters, kept, changed⟩
      simp only [readTag, scanner_building, markers_building, moveTo_building, same,
        Run.retell_pure, pure_bind, enters, kept, Run.rely_of_holds covered,
        Run.rely_of_holds enclosed, cut]
      exact changed

theorem readTag_of_unmatched {text : String} {problem : Problem}
    (read : scanner.view.readTag markers = .ok (.closing text, cursor))
    (unmatched : Unmatched text frames problem) :
    ∃ after : Scanner, after.view = cursor ∧
      (building name scanner markers frames nodes).readTag offset =
        Run.fail ⟨name, after.position offset, problem⟩ := by
  have follows := scanner.follows_readTag markers
  rw [read] at follows
  cases follows with
  | @reads content after same =>
      refine ⟨after, rfl, ?_⟩
      simp only [readTag, scanner_building, markers_building, moveTo_building, same,
        Run.retell_pure, pure_bind, enter_of_unmatched unmatched, Run.fail_bind]

theorem exists_pushText (name : String) (scanner : Scanner) (markers : Markers)
    (frames : List Frame) (nodes : List Node) (text : List Char) :
    ∃ built, Builds frames nodes (Token.plains text markers) frames built ∧
      (building name scanner markers frames nodes).pushText text =
        pure (building name scanner markers frames built) := by
  by_cases empty : text.isEmpty
  · refine ⟨nodes, ?_, ?_⟩
    · rw [Token.plains, if_pos empty]
      exact .here
    · rw [pushText, if_pos empty]
  · refine ⟨.plain (String.ofList text) markers :: nodes, ?_, ?_⟩
    · rw [Token.plains, if_neg empty]
      exact .plain .here
    · have noted : Forest.pragmasOf frames (.plain (String.ofList text) markers :: nodes) =
          Forest.pragmasOf frames nodes := by
        rw [Forest.pragmasOf_cons]
        exact List.append_nil _
      rw [pushText, if_neg empty, push_building, pure_bind, ← noted]
      exact congrArg pure (holding_eq_building rfl)

/-! ## Rounds -/

variable {text : List Char} {within : Cursor}

/-- The last round finds no mark. -/
theorem exists_round_of_unmarked (name : String) (frames : List Frame) (nodes : List Node)
    (absent : scanner.view.readUntil? markers.opening = none) :
    ∃ after built, Passes scanner.view scanner.stream after.view ∧
      Builds frames nodes (Token.plains scanner.stream markers) frames built ∧
      (building name scanner markers frames nodes).round =
        pure (.ends (building name after markers frames built)) := by
  rcases Scanner.exists_readTo_of_absent Fault (Cursor.readUntil?_eq_none_iff.mp absent) with
    ⟨after, read, passes⟩
  rcases exists_pushText name after markers frames nodes scanner.stream with
    ⟨built, builds, pushed⟩
  refine ⟨after, built, passes, builds, ?_⟩
  simp only [round, scanner_building, markers_building, moveTo_building, read, pushed, pure_bind,
    Bool.false_eq_true, if_false]

/-- Any other round reads a tag, from where its opening mark stands. -/
theorem exists_round_of_marked (name : String) (frames : List Frame) (nodes : List Node)
    (opened : scanner.view.readUntil? markers.opening = some (text, within)) :
    ∃ middle built, middle.view = within ∧
      Builds frames nodes (Token.plains text markers) frames built ∧
      (building name scanner markers frames nodes).round = (do
        let parser ← (building name middle markers frames built).readTag
          (scanner.offset + text.length)
        return .goesOn parser) := by
  rcases Cursor.readUntil?_eq_some_iff.mp opened with ⟨clear, passes⟩
  rcases Scanner.exists_readTo_of_clear Fault clear passes.unread with ⟨middle, read, more⟩
  rcases exists_pushText name middle markers frames nodes text with ⟨built, builds, pushed⟩
  have counted : middle.offset = scanner.offset + (text ++ markers.opening).length := more.offset
  rw [List.length_append] at counted
  have covered : Condition.Holds (.covers middle.offset markers.opening.length) := by
    simp only [Condition.Holds]
    omega
  have start : middle.offset - markers.opening.length = scanner.offset + text.length := by omega
  refine ⟨middle, built, more.unique passes, builds, ?_⟩
  simp only [round, scanner_building, markers_building, moveTo_building, read, pushed, pure_bind,
    if_true, Run.rely_of_holds covered, start]

theorem position_eq (reached : Passes (.start source) passed scanner.view) (offset : Nat) :
    scanner.position offset = (Cursor.start source).position offset := by
  have same : scanner.source = source := reached.source
  rw [Scanner.position, same]

/-! ## Whole sources -/

/-- A tag is built, or it is a closing tag that does not match. -/
theorem builds_or_unmatched (frames : List Frame) (nodes : List Node) (content : TagContent)
    (body : String) (markers : Markers) (span : Span) :
    (∃ others built, Builds frames nodes [.tag content body markers span] others built) ∨
      ∃ text problem, content = .closing text ∧ Unmatched text frames problem := by
  rcases Forest.builds_or_stops frames nodes [.tag content body markers span] with
    found | @⟨earlier, later, text, _, _, _, _, _, problem, place, builds, unmatched⟩
  · exact .inl found
  · cases earlier with
    | nil =>
        cases place
        cases builds
        exact .inr ⟨text, problem, rfl, unmatched⟩
    | cons first rest => simp at place

def faultOf (name : String) (source : List Char) (defect : Defect) : Fault :=
  ⟨name, (Cursor.start source).position defect.offset, defect.problem⟩

variable {tokens : List Token} {last : Cursor} {marks : Markers}

/-- The parser reads on to what the tokens build, or it fails at the first of them that does not
match. -/
inductive ReadsOn (name : String) (source : List Char) (scanner : Scanner) (markers : Markers)
    (frames : List Frame) (nodes : List Node) (tokens : List Token) (last : Cursor)
    (marks : Markers) : Prop where
  | builds {after : Scanner} {others : List Frame} {built : List Node} (view : after.view = last)
      (builds : Builds frames nodes tokens others built)
      (same : (building name scanner markers frames nodes).readOn =
        (building name after marks others built).readOn)
  | fails {defect : Defect}
      (fails : (building name scanner markers frames nodes).readOn =
        Run.fail (faultOf name source defect))
      (assembled : ∀ later rest,
        Forest.assemble later (tokens ++ rest) frames nodes = .error defect)

theorem ReadsOn.append {middle : Cursor} {between : Markers} {later : List Token}
    (first : ReadsOn name source scanner markers frames nodes tokens middle between)
    (second : ∀ (after : Scanner) (others : List Frame) (built : List Node),
      after.view = middle → ReadsOn name source after between others built later last marks) :
    ReadsOn name source scanner markers frames nodes (tokens ++ later) last marks := by
  cases first with
  | @builds after others built view builds same =>
      cases second after others built view with
      | builds stands further equal =>
          exact .builds stands (builds.append further) (same.trans equal)
      | fails fails assembled =>
          refine .fails (same.trans fails) ?_
          intro last rest
          rw [List.append_assoc, builds.assemble_eq]
          exact assembled last rest
  | fails fails assembled =>
      refine .fails fails ?_
      intro last rest
      rw [List.append_assoc]
      exact assembled last _

/-- Behind a tag the reader is further on, as its opening mark is not empty. -/
theorem offset_lt {next : Cursor} {body : List Char}
    (outer : Passes scanner.view (text ++ markers.opening) within)
    (inner : Passes within body next) : scanner.offset < next.offset := by
  have whole : next.offset = scanner.offset + (text ++ markers.opening ++ body).length :=
    (outer.trans inner).offset
  have positive := List.length_pos_iff.mpr markers.opening_ne_nil
  simp only [List.length_append] at whole
  omega

/-- One round. -/
theorem readsOn_of_readTag {next : Cursor}
    (reached : Passes (.start source) passed scanner.view)
    (opened : scanner.view.readUntil? markers.opening = some (text, within))
    (read : within.readTag markers = .ok (content, next)) (frames : List Frame)
    (nodes : List Node) :
    ReadsOn name source scanner markers frames nodes
      (Token.plains text markers ++
        [.ofTag content markers (scanner.view.advance text.length) within next])
      next (content.next markers) := by
  rcases exists_round_of_marked name frames nodes opened with
    ⟨middle, between, rfl, plain, round⟩
  have outer := Cursor.passes_readUntil? opened
  rcases Cursor.passes_readTag read with ⟨body, inner⟩
  have behind := reached.trans outer
  rw [Token.ofTag_eq content _ inner, Token.offset_before opened]
  rcases builds_or_unmatched frames between content (String.ofList body) markers
      ⟨scanner.offset + text.length, middle.byteOffset,
        middle.byteOffset + byteLength body⟩ with
    ⟨others, built, builds⟩ | ⟨closed, problem, rfl, unmatched⟩
  · have forward := offset_lt outer inner
    rcases exists_readTag behind read inner builds with ⟨after, rfl, done⟩
    rw [done, pure_bind] at round
    exact .builds rfl (plain.append builds) (Loop.run_of_goesOn round forward)
  · -- The reader has gone on behind the tag, but its fault is told from where the tag began.
    rcases readTag_of_unmatched read unmatched with ⟨after, rfl, failed⟩
    rw [failed, Run.fail_bind, position_eq (behind.trans inner)] at round
    have fails : (building name scanner markers frames nodes).readOn =
        Run.fail (faultOf name source ⟨scanner.offset + text.length, problem⟩) :=
      Loop.run_of_fails round
    refine .fails fails ?_
    intro later rest
    rw [List.append_assoc, plain.assemble_eq]
    exact Forest.assemble_of_unmatched unmatched later _ between

/-- Round by round, the parser does what the tokens build. -/
theorem readsOn_of_reads (name : String) (reads : Token.Reads cursor markers tokens last marks)
    (view : scanner.view = cursor) (reached : Passes (.start source) passed cursor)
    (frames : List Frame) (nodes : List Node) :
    ReadsOn name source scanner markers frames nodes tokens last marks := by
  induction reads generalizing scanner passed frames nodes with
  | here => exact .builds view .here rfl
  | goesOn opened read reads induction =>
      subst view
      rcases Cursor.passes_readTag read with ⟨body, inner⟩
      rw [List.append_cons]
      apply (readsOn_of_readTag reached opened read frames nodes).append
      intro after others built view
      exact induction view ((reached.trans (Cursor.passes_readUntil? opened)).trans inner) others
        built

/-- The arena of a forest, or the fault that a defect is told as. -/
def told (name : String) (source : List Char) : Except Defect Forest → Run Fault Arena
  | .ok forest => return Template.arena ⟨name, forest⟩
  | .error defect => Run.fail (faultOf name source defect)

theorem finish_building (reached : Passes (.start source) passed scanner.view) (frames : List Frame)
    (nodes : List Node) :
    (building name scanner markers frames nodes).finish =
      told name source (Forest.assemble none [] frames nodes) := by
  cases frames with
  | nil => rfl
  | cons frame frames =>
      simp only [finish, openGroups_building, tag_building, pure_bind]
      rw [fault, scanner_building, position_eq reached]
      rfl

/-- Where the tokens end, the parser ends as well: no mark is left, or the next tag cannot be
read. -/
theorem exists_readOn_of_ends (name : String)
    (reads : Token.Reads (.start source) .standard tokens last marks)
    (ends : last.readUntil? marks.opening = none ∨
      ∃ text within problem, last.readUntil? marks.opening = some (text, within) ∧
        within.readTag marks = .error problem) :
    ∃ rest defect, TokenSequence.read source = ⟨tokens ++ rest, defect⟩ ∧
      ∀ after frames nodes, after.view = last →
        ((building name after marks frames nodes).readOn >>= finish) =
          told name source (Forest.assemble defect rest frames nodes) := by
  rcases reads.exists_passes with ⟨passed, reached⟩
  rcases ends with absent | ⟨text, within, problem, opened, failed⟩
  · refine ⟨_, _, reads.read_eq_of_unmarked (Cursor.readUntil?_eq_none_iff.mp absent), ?_⟩
    rintro scanner frames nodes rfl
    rcases exists_round_of_unmarked name frames nodes absent with
      ⟨after, built, passes, plain, round⟩
    have assembled := plain.assemble_eq none []
    rw [List.append_nil] at assembled
    rw [readOn, Loop.run_of_ends round, pure_bind, finish_building (reached.trans passes),
      ← assembled]
    rfl
  · refine ⟨_, _, reads.read_eq_of_failed opened failed, ?_⟩
    rintro scanner frames nodes rfl
    rcases exists_round_of_marked name frames nodes opened with
      ⟨middle, built, rfl, plain, round⟩
    have behind := reached.trans (Cursor.passes_readUntil? opened)
    have assembled := plain.assemble_eq (some ⟨scanner.offset + text.length, problem⟩) []
    rw [List.append_nil] at assembled
    rw [readTag_of_error failed, Run.fail_bind, position_eq behind] at round
    rw [readOn, Loop.run_of_fails round, Run.fail_bind]
    exact congrArg (told name source) assembled.symm

theorem readOn_finish_eq (name : String) (source : List Char) :
    ((start name source).readOn >>= finish) =
      told name source (Forest.ofTokens (.read source)) := by
  rcases Token.exists_reads (.start source) .standard with ⟨tokens, last, marks, reads, ends⟩
  rcases exists_readOn_of_ends name reads ends with ⟨rest, defect, whole, ending⟩
  have first : start name source = building name (.start source) .standard [] [] := rfl
  have view : (Scanner.start source).view = .start source := rfl
  rw [first, Forest.ofTokens, whole]
  cases readsOn_of_reads name reads view (Passes.refl _) [] [] with
  | builds stands builds same => rw [builds.assemble_eq, ← ending _ _ _ stands, ← same]
  | fails fails assembled =>
      rw [assembled, told, ← Run.fail_bind (faultOf name source _) finish, ← fails]

theorem parse_eq_told (name source : String) :
    parse name source = told name source.toList (Forest.ofTokens (.read source.toList)) :=
  readOn_finish_eq name source.toList

/-- Reading in one pass comes to an end for every source, with the arena of the template or its
first fault. No condition is broken on the way, so what is done about a broken one does not
matter: each round of each loop moves on, no number is taken off a smaller one, each body is cut
out between two characters of the source, and each tag that is looked up is in the arena. -/
theorem parse_eq_arena (name source : String) (passesOver : Condition → Bool) :
    (parse name source passesOver).run =
      some (match Template.parse name source with
        | .ok template => .ok template.arena
        | .error fault => .error (.failed fault)) := by
  rw [parse_eq_told, Template.parse]
  cases Forest.ofTokens (.read source.toList) with
  | ok forest => rfl
  | error defect => rfl

end Parser

end Mustache
