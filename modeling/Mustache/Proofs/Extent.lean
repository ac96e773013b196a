import Mustache.Proofs.InForce

namespace Mustache

/-! How far a tag reaches. Its closing mark is looked for behind the sigil, so the tag ends
at the first closing mark there is, unless one begins at the sigil itself: that mark is
taken for the sigil and passed over. Where closing marks begin with no sigil, nothing is
passed over, and a tag with nothing between its marks is told as one without a name. -/

open Text

namespace Text

variable {mark text ending : List Char}

/-- The mark does not begin in the text while the ending stands behind the text. -/
def StartsBeyond (mark text ending : List Char) : Prop :=
  ∀ before behind, text ++ ending = before ++ mark ++ behind → text.length ≤ before.length

theorem startsBeyond_self_iff : StartsBeyond mark text mark ↔ Clear mark text := by
  constructor
  · intro beyond before behind equal
    have bound := beyond before behind equal
    have lengths := congrArg List.length equal
    simp only [List.length_append] at lengths
    apply List.length_eq_zero_iff.mp
    omega
  · intro clear before behind equal
    have lengths := congrArg List.length equal
    simp only [clear before behind equal, List.length_append, List.length_nil] at lengths
    omega

theorem startsBeyond_cons_iff {first : Char} :
    StartsBeyond mark (first :: text) ending ↔
      ¬ mark <+: first :: (text ++ ending) ∧ StartsBeyond mark text ending := by
  constructor
  · intro beyond
    constructor
    · rintro ⟨behind, equal⟩
      have bound := beyond [] behind (by rw [List.nil_append, equal, List.cons_append])
      exact absurd bound (Nat.not_succ_le_zero _)
    · intro before behind equal
      have bound := beyond (first :: before) behind (by simp [equal])
      exact Nat.le_of_succ_le_succ bound
  · rintro ⟨begins, beyond⟩ before behind equal
    cases before with
    | nil => exact absurd ⟨behind, equal.symm⟩ begins
    | cons head before =>
        have inside := beyond before behind (List.cons.inj equal).2
        exact Nat.succ_le_succ inside

/-- A mark that is not blank does not begin in blanks. -/
theorem startsBeyond_append_iff {lead : List Char} (blank : Blank lead) (nonempty : mark ≠ [])
    (inked : Inked mark) : StartsBeyond mark (lead ++ text) ending ↔
      StartsBeyond mark text ending := by
  induction lead with
  | nil => rfl
  | cons first lead induction =>
      rcases List.forall_mem_cons.mp blank with ⟨white, blank⟩
      rw [List.cons_append, startsBeyond_cons_iff, induction blank, and_iff_right]
      rintro ⟨behind, equal⟩
      cases mark with
      | nil => exact nonempty rfl
      | cons head mark =>
          rw [List.cons_append] at equal
          cases (List.cons.inj equal).1
          cases white.symm.trans (inked first rfl)

end Text

theorem Markers.Sound.inked {markers : Markers} (sound : markers.Sound) :
    Inked markers.closing := by
  have inked := sound.inked_closing []
  rwa [List.append_nil] at inked

/-! ## Written tags -/

/-- What stands before the closing mark of a tag; the brace that has to stand behind the
name between three braces is told apart. -/
structure WrittenTag where
  text : List Char
  brace : List Char
  markers : Markers

namespace WrittenTag

def ending (tag : WrittenTag) : List Char :=
  tag.brace ++ tag.markers.closing

/-- The tag ends at the first closing mark there is. -/
def EndsFirst (tag : WrittenTag) : Prop :=
  StartsBeyond tag.markers.closing tag.text tag.ending

/-- A closing mark stands at the first character of the tag that is not blank. -/
def Veiled (tag : WrittenTag) : Prop :=
  tag.markers.closing <+: tag.text.dropWhile isBlank ++ tag.ending

/-- The tag ends as early as it can, behind its sigil. -/
structure Bounded (tag : WrittenTag) : Prop where
  endsFirst_iff : tag.EndsFirst ↔ ¬ tag.Veiled
  endsFirst : (∀ sign ∈ tag.markers.closing.head?, isSigil sign = false) → tag.EndsFirst

variable {tag : WrittenTag}

theorem endsFirst_iff_of_shape (sound : tag.markers.Sound) {lead text : List Char} {sigil : Char}
    (blank : Blank lead) (inked : isBlank sigil = false) (shape : tag.text = lead ++ sigil :: text)
    (beyond : StartsBeyond tag.markers.closing text tag.ending) :
    tag.EndsFirst ↔ ¬ tag.Veiled := by
  have dropped : (lead ++ sigil :: text).dropWhile isBlank = sigil :: text := by
    rw [List.dropWhile_append_of_pos blank, List.dropWhile_cons_of_neg (by simp [inked])]
  rw [EndsFirst, Veiled, shape, dropped,
    startsBeyond_append_iff blank tag.markers.closing_ne_nil sound.inked, startsBeyond_cons_iff,
    and_iff_left beyond, List.cons_append]

theorem bounded_of_sigil (sound : tag.markers.Sound) {lead text : List Char} {sigil : Char}
    (blank : Blank lead) (inked : isBlank sigil = false) (signed : isSigil sigil = true)
    (shape : tag.text = lead ++ sigil :: text)
    (beyond : StartsBeyond tag.markers.closing text tag.ending) : tag.Bounded := by
  have ends := endsFirst_iff_of_shape sound blank inked shape beyond
  refine ⟨ends, fun unsigned => ends.mpr ?_⟩
  intro veiled
  rw [Veiled, shape, List.dropWhile_append_of_pos blank,
    List.dropWhile_cons_of_neg (by simp [inked])] at veiled
  rcases veiled with ⟨behind, equal⟩
  cases closing : tag.markers.closing with
  | nil => exact tag.markers.closing_ne_nil closing
  | cons sign rest =>
      rw [closing, List.cons_append, List.cons_append] at equal
      have plain := unsigned sign (by rw [closing]; rfl)
      rw [(List.cons.inj equal).1, signed] at plain
      cases plain

theorem bounded_of_endsFirst (sound : tag.markers.Sound) {lead text : List Char} {sigil : Char}
    (blank : Blank lead) (inked : isBlank sigil = false) (shape : tag.text = lead ++ sigil :: text)
    (beyond : StartsBeyond tag.markers.closing (sigil :: text) tag.ending) :
    tag.EndsFirst ∧ tag.Bounded := by
  have ends : tag.EndsFirst := by
    rw [EndsFirst, shape]
    exact (startsBeyond_append_iff blank tag.markers.closing_ne_nil sound.inked).mpr beyond
  exact ⟨ends, endsFirst_iff_of_shape sound blank inked shape (startsBeyond_cons_iff.mp beyond).2,
    fun _ => ends⟩

end WrittenTag

/-! ## Tags of a node -/

/-- The tags that a node is written with. A section has two, and texts have none; tags
that set new marks have no name or text up to the closing mark. -/
def Node.writtenTags : Node → List WrittenTag
  | .plain _ _ | .leaf .redelimit _ _ _ => []
  | .leaf .triple _ body markers => [⟨body.toList.dropLast, ['}'], markers⟩]
  | .leaf _ _ body markers => [⟨body.toList, [], markers⟩]
  | .group _ _ body markers _ closeBody closeMarkers =>
    [⟨body.toList, [], markers⟩, ⟨closeBody.toList, [], closeMarkers⟩]

theorem isSigil_of_verbatimKind? {sigil : Char} {kind : LeafKind}
    (kept : verbatimKind? sigil = some kind) : isSigil sigil = true ∧ isBlank sigil = false := by
  rw [verbatimKind?.eq_def] at kept
  split at kept <;> cases kept <;> decide

theorem isSigil_of_namedContent? {sigil : Char} {content : String → TagContent}
    (made : namedContent? sigil = some content) : isSigil sigil = true ∧ isBlank sigil = false := by
  rw [namedContent?.eq_def] at made
  split at made <;> cases made <;> decide

namespace TagBody

variable {markers : Markers} {body : List Char} {content : TagContent}

/-- A tag whose text goes up to its closing mark. -/
theorem bounded (sound : markers.Sound) (form : TagBody markers body content)
    (unbraced : ∀ name, content ≠ .leaf .triple name) (unset : ∀ next, content ≠ .redelimit next) :
    (⟨body, [], markers⟩ : WrittenTag).Bounded := by
  rcases form with ⟨lead, written, blank, rfl, form⟩
  cases form with
  | verbatim kept clear =>
      rcases isSigil_of_verbatimKind? kept with ⟨signed, inked⟩
      exact WrittenTag.bounded_of_sigil sound blank inked signed rfl
        (startsBeyond_self_iff.mpr clear)
  | named made clear names =>
      rcases isSigil_of_namedContent? made with ⟨signed, inked⟩
      exact WrittenTag.bounded_of_sigil sound blank inked signed rfl
        (startsBeyond_self_iff.mpr clear)
  | bare plain inked clear names =>
      exact (WrittenTag.bounded_of_endsFirst sound blank inked rfl
        (startsBeyond_self_iff.mpr clear)).2
  | triple clear names => exact absurd rfl (unbraced _)
  | redelimit written => exact absurd rfl (unset _)

/-- A name without a sigil is read from its first character on. -/
theorem endsFirst_of_name (sound : markers.Sound) {name : String}
    (form : TagBody markers body (.leaf .name name)) :
    (⟨body, [], markers⟩ : WrittenTag).EndsFirst := by
  rcases form with ⟨lead, written, blank, rfl, form⟩
  generalize said : TagContent.leaf .name name = content at form
  cases form with
  | verbatim kept clear =>
      rw [verbatimKind?.eq_def] at kept
      split at kept <;> cases kept <;> cases said
  | @named sigil content written text made clear names =>
      rw [namedContent?.eq_def] at made
      split at made <;> cases made <;> cases said
  | bare plain inked clear names =>
      exact (WrittenTag.bounded_of_endsFirst sound blank inked rfl
        (startsBeyond_self_iff.mpr clear)).1
  | triple | redelimit => cases said

/-- A brace stands in front of the closing mark of a name between three braces. -/
theorem bounded_of_triple (sound : markers.Sound) {name : String}
    (form : TagBody markers body (.leaf .triple name)) :
    body = body.dropLast ++ ['}'] ∧ (⟨body.dropLast, ['}'], markers⟩ : WrittenTag).Bounded := by
  rcases form with ⟨lead, written, blank, rfl, form⟩
  generalize said : TagContent.leaf .triple name = content at form
  cases form with
  | verbatim kept clear =>
      rw [verbatimKind?.eq_def] at kept
      split at kept <;> cases kept <;> cases said
  | @named sigil content written text made clear names =>
      rw [namedContent?.eq_def] at made
      split at made <;> cases made <;> cases said
  | @triple text name clear names =>
      have shape : (lead ++ '{' :: (text ++ ['}'])).dropLast = lead ++ '{' :: text := by
        rw [← List.cons_append, ← List.append_assoc, List.dropLast_concat]
      refine ⟨by simp [shape], ?_⟩
      exact WrittenTag.bounded_of_sigil sound blank (by decide) (by decide) shape clear
  | bare | redelimit => cases said

end TagBody

/-! ## Empty tags -/

/-- The reader comes to a tag: the cursor stands behind the opening mark of the tag, and
the marks are in force there. -/
inductive Token.Comes (source : List Char) : Cursor → Markers → Prop where
  | first {text : List Char} {inside : Cursor}
      (opened : (Cursor.start source).readUntil? Markers.standard.opening = some (text, inside)) :
      Comes source inside .standard
  | next {inside after further : Cursor} {markers : Markers} {content : TagContent}
      {text : List Char} (comes : Comes source inside markers)
      (read : inside.readTag markers = .ok (content, after))
      (opened : after.readUntil? (content.next markers).opening = some (text, further)) :
      Comes source further (content.next markers)

theorem Token.Comes.sound {source : List Char} {inside : Cursor} {markers : Markers}
    (comes : Comes source inside markers) : markers.Sound := by
  induction comes with
  | first opened => exact Markers.sound_standard
  | next comes read opened sound =>
      rcases (Cursor.readTag_eq_ok_iff sound).mp read with ⟨body, form, -⟩
      exact form.sound_next sound

/-- What the reader has found before it comes to a tag has no defect, so all that is to be
said of the source is said of the rest of it. -/
theorem Token.Comes.exists_readFrom {source : List Char} {inside : Cursor} {markers : Markers}
    (comes : Comes source inside markers) :
    ∃ cursor passed text, cursor.readUntil? markers.opening = some (text, inside) ∧
      TokenSequence.read source = readFrom cursor markers passed := by
  induction comes with
  | @first text inside opened => exact ⟨.start source, [], text, opened, rfl⟩
  | @next inside after further markers content text comes read opened induction =>
      rcases induction with ⟨cursor, passed, before, begins, whole⟩
      refine ⟨after, ofTag content markers (cursor.advance before.length) inside after ::
        (plains before markers ++ passed), text, opened, ?_⟩
      rw [whole, readFrom_of_readTag passed begins read]

theorem Cursor.readTag_of_empty {cursor : Cursor} {markers : Markers} (sound : markers.Sound)
    (unsigned : ∀ sign ∈ markers.closing.head?, isSigil sign = false) {gap rest : List Char}
    (blank : Blank gap) (view : cursor.unread = gap ++ (markers.closing ++ rest)) :
    cursor.readTag markers = .error .missingName := by
  rcases exists_passes view with ⟨middle, skips, shown⟩
  have skipped : cursor.skipBlanks = middle :=
    skipBlanks_eq_iff.mpr ⟨gap, blank, skips, by
      rw [shown]
      exact sound.inked_closing rest⟩
  rcases exists_passes shown with ⟨after, passes, -⟩
  have body : middle.readUntil? markers.closing = some ([], after) :=
    readUntil?_eq_some_iff.mpr ⟨clear_nil _, passes⟩
  cases closing : markers.closing with
  | nil => exact absurd closing markers.closing_ne_nil
  | cons sign marks =>
      rw [closing, List.cons_append, ← List.singleton_append] at shown
      rcases exists_passes shown with ⟨behind, head, -⟩
      have plain := unsigned sign (by rw [closing]; rfl)
      rw [readTag, skipped, next?_eq_some_iff.mpr head]
      simp only [readSigil_of_plain plain, readNamed, readName, readBody, body]
      rfl

/-! ## Templates -/

namespace Template

/-- Every tag ends at the first closing mark behind its sigil. Names without a sigil end at
the first one there is, and a brace stands at the end of names between three braces. -/
structure Ended (template : Template) : Prop where
  bounded : ∀ item ∈ template.outline, ∀ tag ∈ item.node.writtenTags, tag.Bounded
  name : ∀ item ∈ template.outline, ∀ (name body : String) (markers : Markers),
    item.node = .leaf .name name body markers → ∀ tag ∈ item.node.writtenTags, tag.EndsFirst
  braced : ∀ item ∈ template.outline, ∀ (name body : String) (markers : Markers),
    item.node = .leaf .triple name body markers → body.toList = body.toList.dropLast ++ ['}']

theorem sound_of_outline {name source : String} {template : Template}
    (parsed : parse name source = .ok template) {item : OutlineItem}
    (member : item ∈ template.outline) :
    item.node.markers.Sound ∧ ∀ closing ∈ item.node.closeMarkers?, closing.Sound := by
  have marked := marked_of_parse parsed
  rcases List.getElem?_of_mem member with ⟨number, numbered⟩
  constructor
  · rcases marked.sound _ _ (marked.own number item numbered) with ⟨-, opening, -, closing⟩
    exact ⟨opening, closing⟩
  · intro closing closes
    rcases marked.sound _ _ (marked.closed number item closing numbered closes) with
      ⟨-, opening, -, closing⟩
    exact ⟨opening, closing⟩

theorem ended_of_parse {name source : String} {template : Template}
    (parsed : parse name source = .ok template) : template.Ended := by
  refine ⟨?_, ?_, ?_⟩
  · intro item member tag among
    have written := written_of_parse parsed member
    have sound := sound_of_outline parsed member
    cases node : item.node with
    | plain text markers =>
        rw [node] at among
        cases among
    | group kind said body markers children closeBody closeMarkers =>
        rw [node] at written sound among
        rcases written with ⟨form, closeForm⟩
        rcases List.mem_cons.mp among with rfl | among
        · exact form.bounded sound.1 nofun nofun
        · rcases List.mem_singleton.mp among with rfl
          exact closeForm.bounded (sound.2 closeMarkers rfl) nofun nofun
    | leaf kind text body markers =>
        rw [node] at written sound among
        rcases written with ⟨content, stands, form⟩
        cases kind with
        | redelimit => cases among
        | triple =>
            rcases List.mem_singleton.mp among with rfl
            cases content with
            | leaf =>
                cases stands
                exact (form.bounded_of_triple sound.1).2
            | redelimit | opening | closing => cases stands
        | _ =>
            rcases List.mem_singleton.mp among with rfl
            cases content with
            | leaf =>
                cases stands
                exact form.bounded sound.1 nofun nofun
            | redelimit | opening | closing => cases stands
  · intro item member text body markers node tag among
    have written := written_of_parse parsed member
    have sound := (sound_of_outline parsed member).1
    rw [node] at written sound among
    rcases List.mem_singleton.mp among with rfl
    rcases written with ⟨content, stands, form⟩
    cases content with
    | leaf =>
        cases stands
        exact form.endsFirst_of_name sound
    | redelimit | opening | closing => cases stands
  · intro item member text body markers node
    have written := written_of_parse parsed member
    have sound := (sound_of_outline parsed member).1
    rw [node] at written sound
    rcases written with ⟨content, stands, form⟩
    cases content with
    | leaf =>
        cases stands
        exact (form.bounded_of_triple sound).1
    | redelimit | opening | closing => cases stands

theorem parse_of_empty {source : String} {inside : Cursor} {markers : Markers}
    (comes : Token.Comes source.toList inside markers)
    (unsigned : ∀ sign ∈ markers.closing.head?, isSigil sign = false) {gap rest : List Char}
    (blank : Blank gap) (view : inside.unread = gap ++ (markers.closing ++ rest)) (name : String) :
    ∃ fault, parse name source = .error fault := by
  rcases comes.exists_readFrom with ⟨cursor, passed, text, opened, whole⟩
  have failed := Cursor.readTag_of_empty comes.sound unsigned blank view
  have defective : (TokenSequence.read source.toList).defect ≠ none := by
    rw [whole, Token.readFrom_of_failed passed opened failed]
    exact Option.some_ne_none _
  cases parsed : parse name source with
  | error fault => exact ⟨fault, rfl⟩
  | ok template =>
      rw [parse] at parsed
      split at parsed
      · next built => exact absurd (Forest.completes_of_assemble built).1 defective
      · cases parsed

/-- Tags reach no further than to the first closing mark behind their sigils. Where closing
marks begin with no sigil this is the first one there is, and empty tags are faults. -/
theorem parse_extent (name source : String) :
    (∀ template, parse name source = .ok template → template.Ended) ∧
      ∀ (inside : Cursor) (markers : Markers) (gap rest : List Char),
        Token.Comes source.toList inside markers → Blank gap →
          inside.unread = gap ++ (markers.closing ++ rest) →
            (∀ sign ∈ markers.closing.head?, isSigil sign = false) →
              ∃ fault, parse name source = .error fault :=
  ⟨fun _ => ended_of_parse, fun _ _ _ _ comes blank view unsigned =>
    parse_of_empty comes unsigned blank view name⟩

/-- One source is read to its end, and another one up to an empty tag. -/
theorem parse_extent_bars :
    (∃ page, parse "page" "\x7b\x7b=<| |>=\x7d\x7d<|&a|><|\x7bb\x7d|>" = .ok page ∧ page.Ended) ∧
      ∃ fault, parse "page" "\x7b\x7b=<| |>=\x7d\x7d<| |>a<|b|>" = .error fault := by
  constructor
  · have known : (parse "page" "\x7b\x7b=<| |>=\x7d\x7d<|&a|><|\x7bb\x7d|>").isOk = true := by
      decide +kernel
    cases parsed : parse "page" "\x7b\x7b=<| |>=\x7d\x7d<|&a|><|\x7bb\x7d|>" with
    | error fault =>
        rw [parsed] at known
        cases known
    | ok page => exact ⟨page, rfl, (parse_extent "page" _).1 page parsed⟩
  · let source := "\x7b\x7b=<| |>=\x7d\x7d<| |>a<|b|>"
    let start := Cursor.start source.toList
    let bars : Markers := ⟨['<', '|'], ['|', '>'], by decide, by decide⟩
    have first : start.readUntil? Markers.standard.opening = some ([], start.advance 2) := by
      decide +kernel
    have read : (start.advance 2).readTag .standard = .ok (.redelimit bars, start.advance 11) := by
      decide +kernel
    have second : (start.advance 11).readUntil? bars.opening = some ([], start.advance 13) := by
      decide +kernel
    have view : (start.advance 13).unread = [' '] ++ (bars.closing ++ "a<|b|>".toList) := by
      decide +kernel
    refine (parse_extent "page" source).2 _ bars _ _ (.next (.first first) read second) ?_ view ?_
    · intro character member
      rcases List.mem_singleton.mp member with rfl
      decide
    · rintro sign ⟨⟩
      decide

/-- A closing mark that begins with a sigil: the empty tag is read as a pragma that goes on
to the next closing mark. -/
theorem parse_extent_signed :
    ∃ page item tag, parse "page" "\x7b\x7b=<% %>=\x7d\x7d<%%>a<%b%>" = .ok page ∧
      item ∈ page.outline ∧ tag ∈ item.node.writtenTags ∧
      tag.text = "%>a<%b".toList ∧ tag.markers.closing = "%>".toList ∧ ¬ tag.EndsFirst := by
  have shown : (parse "page" "\x7b\x7b=<% %>=\x7d\x7d<%%>a<%b%>").toOption.map (fun page =>
      (page.outline.flatMap (·.node.writtenTags)).map fun tag =>
        (tag.text, tag.brace, tag.markers.closing)) =
          some [("%>a<%b".toList, [], "%>".toList)] := by
    decide +kernel
  cases parsed : parse "page" "\x7b\x7b=<% %>=\x7d\x7d<%%>a<%b%>" with
  | error fault =>
      rw [parsed] at shown
      cases shown
  | ok page =>
      rw [parsed] at shown
      rcases List.map_eq_singleton_iff.mp (Option.some.inj shown) with ⟨tag, only, parts⟩
      have among : tag ∈ page.outline.flatMap (·.node.writtenTags) := by simp [only]
      rcases List.mem_flatMap.mp among with ⟨item, member, written⟩
      rcases Prod.mk.inj parts with ⟨text, others⟩
      rcases Prod.mk.inj others with ⟨brace, closing⟩
      refine ⟨page, item, tag, rfl, member, written, text, closing, fun ends => ?_⟩
      have bound := ends [] "a<%b%>".toList (by
        rw [WrittenTag.ending, text, brace, closing]
        rfl)
      rw [text] at bound
      exact absurd bound (by decide)

end Template

end Mustache
