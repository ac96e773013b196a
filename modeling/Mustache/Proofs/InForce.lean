import Mustache.Proofs.Arrangement

namespace Mustache

/-! The marks that each node of a template is written between. A tag that sets new marks
is written between the old ones; the new ones stay in force behind it, in the section
around it and behind that section, until the next such tag. -/

open Text

/-! ## Named marks -/

namespace Markers

/-- Sound marks are told apart by the space between them, as neither has one in it. -/
theorem eq_of_toChars_eq {markers next : Markers} (sound : next.Sound)
    (same : markers.toChars = next.toChars) : markers = next := by
  have solidOpening : ' ' ∉ next.opening := fun member => by
    cases sound.opening ' ' member
  have solidClosing : ' ' ∉ next.closing := fun member => by
    cases (sound.closing ' ' member).1
  have both : markers.opening = next.opening ∧ markers.closing = next.closing := by
    rcases List.append_eq_append_iff.mp same with ⟨more, opening, rest⟩ | ⟨more, opening, rest⟩
    · cases more with
      | nil => exact ⟨by simpa using opening.symm, by simpa using rest⟩
      | cons head tail =>
          obtain rfl : ' ' = head := (List.cons.inj rest).1
          exact absurd (by simp [opening]) solidOpening
    · cases more with
      | nil => exact ⟨by simpa using opening, by simpa using rest.symm⟩
      | cons head tail =>
          have closing := (List.cons.inj rest).2
          exact absurd (by simp [closing]) solidClosing
  rcases markers with ⟨opening, closing, _, _⟩
  rcases next with ⟨opening', closing', _, _⟩
  rcases both with ⟨rfl, rfl⟩
  rfl

end Markers

/-- The text of a tag that sets new marks. -/
def Node.newMarks? : Node → Option String
  | .leaf .redelimit text _ _ => some text
  | _ => none

/-- A tag that stands alone leaves the marks as they are or sets those that it names. -/
theorem TagBody.next_of_leaf {markers : Markers} {body : List Char} {content : TagContent}
    {kind : LeafKind} {text : String} (form : TagBody markers body content)
    (stands : content.leaf? = some (kind, text)) (own : String) (marks : Markers) :
    (Node.leaf kind text own marks).newMarks? = none ∧ content.next markers = markers ∨
      ∃ next, (Node.leaf kind text own marks).newMarks? = some text ∧
        content.next markers = next ∧ text.toList = next.toChars ∧ next.Sound := by
  rcases form with ⟨lead, written, -, -, form⟩
  cases form with
  | verbatim kept clear =>
      cases stands
      rw [verbatimKind?.eq_def] at kept
      split at kept <;> cases kept <;> exact .inl ⟨rfl, rfl⟩
  | @named sigil content written name made clear names =>
      rw [namedContent?.eq_def] at made
      split at made <;> cases made <;> cases stands <;> exact .inl ⟨rfl, rfl⟩
  | bare plain inked clear names | triple clear names =>
      cases stands
      exact .inl ⟨rfl, rfl⟩
  | @redelimit next written redelimits =>
      cases stands
      cases redelimits with
      | intro sound => exact .inr ⟨next, rfl, rfl, by simp, sound⟩

/-! ## From item to item -/

/-- Items that are written where some marks are in force, and the marks behind them. -/
inductive Leads : Markers → List OutlineItem → Markers → Prop where
  | nil {markers : Markers} : Leads markers [] markers
  | keeps {markers last : Markers} {item : OutlineItem} {rest : List OutlineItem}
      (own : item.node.markers = markers) (unset : item.node.newMarks? = none)
      (onwards : Leads markers rest last) : Leads markers (item :: rest) last
  | changes {markers next last : Markers} {item : OutlineItem} {rest : List OutlineItem}
      {text : String} (own : item.node.markers = markers) (sets : item.node.newMarks? = some text)
      (named : text.toList = next.toChars) (sound : next.Sound) (onwards : Leads next rest last) :
      Leads markers (item :: rest) last

theorem leads_append_iff {first last : Markers} {items others : List OutlineItem} :
    Leads first (items ++ others) last ↔
      ∃ between, Leads first items between ∧ Leads between others last := by
  constructor
  · intro leads
    induction items generalizing first with
    | nil => exact ⟨first, .nil, leads⟩
    | cons item items induction =>
        cases leads with
        | keeps own unset onwards =>
            rcases induction onwards with ⟨between, before, behind⟩
            exact ⟨between, .keeps own unset before, behind⟩
        | changes own sets named sound onwards =>
            rcases induction onwards with ⟨between, before, behind⟩
            exact ⟨between, .changes own sets named sound before, behind⟩
  · rintro ⟨between, before, behind⟩
    induction before with
    | nil => exact behind
    | keeps own unset onwards induction => exact .keeps own unset (induction behind)
    | changes own sets named sound onwards induction =>
        exact .changes own sets named sound (induction behind)

theorem Leads.own_of_cons {first last : Markers} {item : OutlineItem} {rest : List OutlineItem}
    (leads : Leads first (item :: rest) last) : item.node.markers = first := by
  cases leads with
  | keeps own => exact own
  | changes own => exact own

theorem Leads.unique {first last other : Markers} {items : List OutlineItem}
    (leads : Leads first items last) (again : Leads first items other) : last = other := by
  induction leads with
  | nil =>
      cases again
      rfl
  | keeps own unset onwards induction =>
      cases again with
      | keeps _ _ onwards' => exact induction onwards'
      | changes _ sets => cases unset.symm.trans sets
  | changes own sets named sound onwards induction =>
      cases again with
      | keeps _ unset => cases unset.symm.trans sets
      | changes _ sets' named' sound' onwards' =>
          cases sets.symm.trans sets'
          cases Markers.eq_of_toChars_eq sound (named'.symm.trans named)
          exact induction onwards'

mutual
/-- A section is closed between the marks that are in force behind what stands in it. -/
theorem Node.exists_leads {node : Node} {lexemes more : List Lexeme} {markers : Markers}
    (spelled : node.Spelled lexemes) (legible : Legible markers (lexemes ++ more))
    (parent : Option Nat) (first : Nat) :
    ∃ last, Leads markers (node.outline parent first) last ∧ Legible last more ∧
      ∀ closing ∈ node.closeMarkers?, closing = last := by
  cases node with
  | plain text own =>
      cases spelled
      cases legible with
      | plain nonempty ended follows => exact ⟨markers, .keeps rfl rfl .nil, follows, nofun⟩
  | leaf kind text body own =>
      rcases spelled with ⟨content, stands, rfl⟩
      cases legible with
      | tag form follows =>
          rcases form.next_of_leaf stands body markers with
            ⟨unset, same⟩ | ⟨next, sets, same, named, sound⟩
          · rw [same] at follows
            exact ⟨markers, .keeps rfl unset .nil, follows, nofun⟩
          · rw [same] at follows
            exact ⟨next, .changes rfl sets named sound .nil, follows, nofun⟩
  | group kind name body own children closeBody closeMarkers =>
      rcases spelled with ⟨inner, spelled, rfl⟩
      rw [List.cons_append, List.append_assoc] at legible
      cases legible with
      | tag form follows =>
          rcases Node.exists_forestLeads spelled follows (some first) (first + 1) with
            ⟨last, leads, closed⟩
          cases closed with
          | tag closeForm follows =>
              refine ⟨closeMarkers, .keeps rfl rfl leads, follows, ?_⟩
              rintro _ ⟨⟩
              rfl

theorem Node.exists_forestLeads {forest : List Node} {lexemes more : List Lexeme}
    {markers : Markers} (spelled : Node.ForestSpelled forest lexemes)
    (legible : Legible markers (lexemes ++ more)) (parent : Option Nat) (first : Nat) :
    ∃ last, Leads markers (Node.forestOutline parent first forest) last ∧ Legible last more := by
  cases forest with
  | nil =>
      cases spelled
      exact ⟨markers, .nil, legible⟩
  | cons node rest =>
      rcases spelled with ⟨front, back, one, others, rfl⟩
      rw [List.append_assoc] at legible
      rcases Node.exists_leads one legible parent first with ⟨between, before, readable, -⟩
      rcases Node.exists_forestLeads others readable parent (first + node.count) with
        ⟨last, behind, follows⟩
      exact ⟨last, leads_append_iff.mpr ⟨between, before, behind⟩, follows⟩
end

/-! ## By the last change -/

/-- The marks in force at a number: those that the last tag before it has set, or the
standard ones if there is no such tag. -/
inductive InForce (items : List OutlineItem) (number : Nat) (markers : Markers) : Prop where
  | standard (unset : ∀ (other : Nat) (item : OutlineItem), other < number →
      items[other]? = some item → item.node.newMarks? = none) (same : markers = .standard)
  | set {last : Nat} {item : OutlineItem} {text : String} (before : last < number)
      (found : items[last]? = some item) (sets : item.node.newMarks? = some text)
      (latest : ∀ (other : Nat) (later : OutlineItem), last < other → other < number →
        items[other]? = some later → later.node.newMarks? = none)
      (named : text.toList = markers.toChars)

namespace InForce

variable {items : List OutlineItem} {number : Nat} {item : OutlineItem} {markers : Markers}

theorem keep (force : InForce items number markers) (found : items[number]? = some item)
    (unset : item.node.newMarks? = none) : InForce items (number + 1) markers := by
  have own : ∀ {other : Nat} {later : OutlineItem}, ¬ other < number → other < number + 1 →
      items[other]? = some later → later.node.newMarks? = none := by
    intro other later beyond within numbered
    obtain rfl : other = number := by omega
    cases found.symm.trans numbered
    exact unset
  cases force with
  | standard never same =>
      refine .standard (fun other later within numbered => ?_) same
      by_cases before : other < number
      · exact never other later before numbered
      · exact own before within numbered
  | @set last setter text before held sets latest named =>
      refine .set (Nat.lt_succ_of_lt before) held sets (fun other later after within numbered => ?_)
        named
      by_cases before : other < number
      · exact latest other later after before numbered
      · exact own before within numbered

theorem change {text : String} (found : items[number]? = some item)
    (sets : item.node.newMarks? = some text) (named : text.toList = markers.toChars) :
    InForce items (number + 1) markers := by
  refine .set (Nat.lt_succ_self number) found sets (fun other later after within numbered => ?_)
    named
  omega

end InForce

theorem Leads.inForce {front : List OutlineItem} {markers : Markers}
    (leads : Leads .standard front markers) (behind : List OutlineItem) :
    InForce (front ++ behind) front.length markers := by
  induction front using List.reverseRecOn generalizing behind markers with
  | nil =>
      cases leads
      exact .standard (fun other item within => absurd within (Nat.not_lt_zero other)) rfl
  | append_singleton front item induction =>
      rcases leads_append_iff.mp leads with ⟨between, before, last⟩
      have found : (front ++ [item] ++ behind)[front.length]? = some item := by simp
      rw [List.length_append, List.length_singleton]
      cases last with
      | keeps own unset onwards =>
          cases onwards
          have force := induction before (item :: behind)
          rw [List.append_cons] at force
          exact force.keep found unset
      | changes own sets named sound onwards =>
          cases onwards
          exact .change found sets named

theorem Leads.exists_inForce {items : List OutlineItem} {last : Markers}
    (leads : Leads .standard items last) {number : Nat} (within : number ≤ items.length) :
    ∃ between, InForce items number between ∧ Leads between (items.drop number) last := by
  rw [← List.take_append_drop number items] at leads
  rcases leads_append_iff.mp leads with ⟨between, before, behind⟩
  have force := before.inForce (items.drop number)
  rw [List.take_append_drop, List.length_take_of_le within] at force
  exact ⟨between, force, behind⟩

/-- Each number has one pair of marks in force if each tag names sound ones. -/
theorem InForce.unique {items : List OutlineItem}
    (names : ∀ item ∈ items, ∀ text ∈ item.node.newMarks?,
      ∃ next : Markers, text.toList = next.toChars ∧ next.Sound)
    {number : Nat} {one other : Markers} (force : InForce items number one)
    (force' : InForce items number other) : one = other := by
  cases force with
  | standard unset same =>
      cases force' with
      | standard _ same' => rw [same, same']
      | set before found sets => cases (unset _ _ before found).symm.trans sets
  | @set last item text before found sets latest named =>
      cases force' with
      | standard unset' => cases (unset' _ _ before found).symm.trans sets
      | @set last' item' text' before' found' sets' latest' named' =>
          rcases Nat.lt_trichotomy last last' with less | rfl | more
          · cases (latest _ _ less before' found').symm.trans sets'
          · cases found.symm.trans found'
            cases sets.symm.trans sets'
            rcases names item (List.mem_of_getElem? found) text sets with ⟨next, same, sound⟩
            rw [Markers.eq_of_toChars_eq sound (named.symm.trans same),
              Markers.eq_of_toChars_eq sound (named'.symm.trans same)]
          · cases (latest' _ _ more before found).symm.trans sets

/-! ## Templates -/

namespace Template

theorem names_of_outline {name source : String} {template : Template}
    (parsed : parse name source = .ok template) {item : OutlineItem}
    (member : item ∈ template.outline) {text : String} (sets : item.node.newMarks? = some text) :
    ∃ next : Markers, text.toList = next.toChars ∧ next.Sound := by
  have written := written_of_parse parsed member
  cases node : item.node with
  | plain | group =>
      rw [node] at sets
      cases sets
  | leaf kind said body markers =>
      rw [node] at written sets
      rcases written with ⟨content, stands, form⟩
      rcases form.next_of_leaf stands body markers with
        ⟨unset, -⟩ | ⟨next, new, -, named, sound⟩
      · cases unset.symm.trans sets
      · cases new.symm.trans sets
        exact ⟨next, named, sound⟩

/-- Every node has the marks that are in force where it is written, and just one pair of
marks is in force at each place. -/
structure Marked (template : Template) : Prop where
  own : ∀ (number : Nat) (item : OutlineItem), template.outline[number]? = some item →
    InForce template.outline number item.node.markers
  /-- A section is closed under the marks that are in force behind all that stands in it. -/
  closed : ∀ (number : Nat) (item : OutlineItem) (closing : Markers),
    template.outline[number]? = some item → item.node.closeMarkers? = some closing →
      InForce template.outline (number + item.node.count) closing
  unique : ∀ number ≤ template.size, ∃! markers, InForce template.outline number markers
  sound : ∀ (number : Nat) (markers : Markers), InForce template.outline number markers →
    markers.opening ≠ [] ∧ (∀ character ∈ markers.opening, isBlank character = false) ∧
      markers.closing ≠ [] ∧
      ∀ character ∈ markers.closing, isBlank character = false ∧ character ≠ '='

theorem exists_leads {name source : String} {template : Template}
    (parsed : parse name source = .ok template) :
    ∃ last, Leads .standard template.outline last := by
  rcases parse_eq_ok_iff.mp parsed with ⟨-, lexemes, spelled, legible, -⟩
  rw [← List.append_nil lexemes] at legible
  rcases Node.exists_forestLeads spelled legible none 0 with ⟨last, leads, -⟩
  exact ⟨last, leads⟩

/-- The marks behind a section are told by the section alone and by all before it alike. -/
theorem inForce_of_closed {name source : String} {template : Template} {number : Nat}
    {item : OutlineItem} {closing : Markers} (parsed : parse name source = .ok template)
    (numbered : template.outline[number]? = some item)
    (closes : item.node.closeMarkers? = some closing) :
    InForce template.outline (number + item.node.count) closing := by
  rcases exists_leads parsed with ⟨last, leads⟩
  rcases exists_lexemes_of_parse parsed (List.mem_of_getElem? numbered) with
    ⟨part, spelled, legible⟩
  rw [← List.append_nil part] at legible
  rcases Node.exists_leads spelled legible item.parent number with ⟨inner, inside, -, same⟩
  rcases Node.standsIn_forestOutline template.forest numbered with
    ⟨before, behind, shape, counted⟩
  have whole : template.outline = before ++ item.node.outline item.parent number ++ behind := by
    rwa [Nat.zero_add] at shape
  rw [whole] at leads ⊢
  rcases leads_append_iff.mp leads with ⟨between, front, -⟩
  have force := front.inForce behind
  rcases leads_append_iff.mp front with ⟨start, -, own⟩
  obtain rfl : item.node.markers = start := by
    rw [item.node.outline_eq] at own
    exact own.own_of_cons
  rw [same closing closes, inside.unique own]
  rwa [List.length_append, counted, Node.length_outline] at force

theorem inForce_of_outline {name source : String} {template : Template} {number : Nat}
    {item : OutlineItem} (parsed : parse name source = .ok template)
    (numbered : template.outline[number]? = some item) :
    InForce template.outline number item.node.markers := by
  rcases exists_leads parsed with ⟨last, leads⟩
  rcases List.getElem?_eq_some_iff.mp numbered with ⟨within, found⟩
  rcases leads.exists_inForce (Nat.le_of_lt within) with ⟨between, force, behind⟩
  rw [List.drop_eq_getElem_cons within, found] at behind
  rwa [behind.own_of_cons]

theorem existsUnique_inForce {name source : String} {template : Template} {number : Nat}
    (parsed : parse name source = .ok template) (within : number ≤ template.size) :
    ∃! markers, InForce template.outline number markers := by
  rcases exists_leads parsed with ⟨last, leads⟩
  rw [← template.length_outline] at within
  rcases leads.exists_inForce within with ⟨between, force, -⟩
  refine ⟨between, force, fun other also => also.unique ?_ force⟩
  intro item member text sets
  exact names_of_outline parsed member sets

theorem sound_of_inForce {name source : String} {template : Template} {number : Nat}
    {markers : Markers} (parsed : parse name source = .ok template)
    (force : InForce template.outline number markers) : markers.Sound := by
  cases force with
  | standard unset same =>
      rw [same]
      exact Markers.sound_standard
  | set before found sets latest named =>
      rcases names_of_outline parsed (List.mem_of_getElem? found) sets with ⟨next, same, sound⟩
      rwa [Markers.eq_of_toChars_eq sound (named.symm.trans same)]

theorem marked_of_parse {name source : String} {template : Template}
    (parsed : parse name source = .ok template) : template.Marked := by
  refine ⟨fun _ _ => inForce_of_outline parsed, fun _ _ _ => inForce_of_closed parsed,
    fun _ => existsUnique_inForce parsed, ?_⟩
  intro number markers force
  have sound := sound_of_inForce parsed force
  exact ⟨markers.opening_ne_nil, sound.opening, markers.closing_ne_nil, sound.closing⟩

/-- New marks that are set in a section and stay in force behind it. -/
theorem marked_of_parse_moved_marks :
    let source := "\x7b\x7b#s\x7d\x7d\x7b\x7b=<% %>=\x7d\x7da<%/s%>b"
    ∃ page, parse "page" source = .ok page ∧ page.Marked ∧
      page.outline.map (fun item => (item.node.markers.opening,
        item.node.closeMarkers?.map Markers.opening)) =
          [(['{', '{'], some ['<', '%']), (['{', '{'], none), (['<', '%'], none),
            (['<', '%'], none)] := by
  intro source
  have shown : (parse "page" source).toOption.map (fun page => page.outline.map
      (fun item => (item.node.markers.opening, item.node.closeMarkers?.map Markers.opening))) =
        some [(['{', '{'], some ['<', '%']), (['{', '{'], none), (['<', '%'], none),
          (['<', '%'], none)] := by
    decide +kernel
  cases parsed : parse "page" source with
  | error fault =>
      rw [parsed] at shown
      cases shown
  | ok page =>
      rw [parsed] at shown
      exact ⟨page, rfl, marked_of_parse parsed, Option.some.inj shown⟩

end Template

end Mustache
