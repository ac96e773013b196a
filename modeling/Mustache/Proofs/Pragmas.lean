import Mustache.Outline
import Mustache.Proofs.Entries
import Mustache.Proofs.Nesting
import Mustache.Proofs.Text.Pieces

namespace Mustache

/-! The pragmas of a template are those of its pragma tags, in the order of the outline,
which is also that of the source. It does not matter in which sections the tags stand.
Pairs that are written in a pragma tag are read back from it. -/

/-! ## Pragma tags -/

/-- The pragma of a tag that is one. -/
def Node.pragma? : Node → Option Pragma
  | .leaf .pragma text _ _ => some (Pragma.parse text.toList)
  | _ => none

/-- The pragmas of all pragma tags. -/
def Template.pragmaTags (template : Template) : List Pragma :=
  template.outline.filterMap fun item => item.node.pragma?

mutual
theorem Node.pragmas_eq (node : Node) (parent : Option Nat) (first : Nat) :
    node.pragmas = (node.outline parent first).filterMap fun item => item.node.pragma? := by
  cases node with
  | plain text markers => rfl
  | leaf kind text body markers => cases kind <;> rfl
  | group kind name body markers children closeBody closeMarkers =>
      rw [Node.pragmas, Node.outline, List.filterMap_cons]
      exact Node.forestPragmas_eq children (some first) (first + 1)

theorem Node.forestPragmas_eq (forest : List Node) (parent : Option Nat) (first : Nat) :
    Node.forestPragmas forest =
      (Node.forestOutline parent first forest).filterMap fun item => item.node.pragma? := by
  cases forest with
  | nil => rfl
  | cons node rest =>
      rw [Node.forestPragmas, Node.forestOutline, List.filterMap_append,
        ← node.pragmas_eq parent first, ← Node.forestPragmas_eq rest parent (first + node.count)]
end

theorem Template.pragmas_eq_pragmaTags (template : Template) :
    template.pragmas = template.pragmaTags :=
  Node.forestPragmas_eq template.forest none 0

/-! ## The order of the source -/

/-- The pragma of a lexeme that is a pragma tag. -/
def Lexeme.pragma? : Lexeme → Option Pragma
  | .tag (.leaf .pragma text) _ _ => some (Pragma.parse text.toList)
  | _ => none

mutual
theorem Node.pragmas_of_spelled {node : Node} {lexemes : List Lexeme}
    (spelled : node.Spelled lexemes) : node.pragmas = lexemes.filterMap Lexeme.pragma? := by
  cases node with
  | plain text markers =>
      cases spelled
      rfl
  | leaf kind text body markers =>
      rcases spelled with ⟨content, stands, rfl⟩
      cases content with
      | leaf =>
          cases stands
          cases kind <;> rfl
      | redelimit =>
          cases stands
          rfl
      | opening | closing => cases stands
  | group kind name body markers children closeBody closeMarkers =>
      rcases spelled with ⟨inner, spelled, rfl⟩
      rw [Node.pragmas, Node.forestPragmas_of_spelled spelled, List.filterMap_cons,
        List.filterMap_append]
      exact (List.append_nil _).symm

theorem Node.forestPragmas_of_spelled {forest : List Node} {lexemes : List Lexeme}
    (spelled : Node.ForestSpelled forest lexemes) :
    Node.forestPragmas forest = lexemes.filterMap Lexeme.pragma? := by
  cases forest with
  | nil =>
      cases spelled
      rfl
  | cons node rest =>
      rcases spelled with ⟨first, others, one, more, rfl⟩
      rw [Node.forestPragmas, Node.pragmas_of_spelled one, Node.forestPragmas_of_spelled more,
        List.filterMap_append]
end

/-- The tags of a source, in the order in which they are read, spell its template. -/
theorem Template.spelled_of_parse {name source : String} {template : Template}
    (parsed : parse name source = .ok template) :
    Node.ForestSpelled template.forest
      ((TokenSequence.read source.toList).tokens.map Token.lexeme) := by
  rw [parse] at parsed
  split at parsed
  · next forest built =>
    cases parsed
    rcases Forest.completes_of_assemble built with ⟨-, more, spelled, rfl⟩
    exact spelled
  · cases parsed

theorem Template.pragmas_eq_of_parse {name source : String} {template : Template}
    (parsed : parse name source = .ok template) :
    template.pragmas = (TokenSequence.read source.toList).tokens.filterMap
      fun token => token.lexeme.pragma? := by
  rw [pragmas, Node.forestPragmas_of_spelled (spelled_of_parse parsed), List.filterMap_map]
  rfl

/-! ## Pairs in a tag -/

namespace Pragma

/-- A key and a value that can be told from each other and from others. -/
structure Writable (pair : String × String) : Prop where
  key : ',' ∉ pair.1.toList ∧ ':' ∉ pair.1.toList
  value : ',' ∉ pair.2.toList

/-- A pair is written with a colon, which may be left out behind a key without a value. -/
inductive Spells : String × String → List Char → Prop where
  | full (key value : String) : Spells (key, value) (key.toList ++ ':' :: value.toList)
  | bare {key : String} (nonempty : key ≠ "") : Spells (key, "") key.toList

theorem entryOfPiece_of_spells {pair : String × String} (writable : Writable pair)
    {piece : List Char} (spells : Spells pair piece) :
    piece ≠ [] ∧ ',' ∉ piece ∧ entryOfPiece piece = pair := by
  rcases writable with ⟨⟨whole, uncut⟩, ended⟩
  cases spells with
  | full key value =>
      refine ⟨by simp, by simp [whole, ended], ?_⟩
      rw [entryOfPiece, Text.cut?_append uncut]
      simp
  | bare nonempty =>
      refine ⟨by simpa using nonempty, whole, ?_⟩
      rw [entryOfPiece, Text.cut?_of_not_mem uncut]
      simp

end Pragma

/-- A template has one pragma for each of its pragma tags, in whatever sections these
stand, in the order in which they are written. All pairs that are written in a pragma tag
are its entries. -/
theorem Template.pragmas_read_back :
    (∀ name source template, parse name source = .ok template →
      template.pragmas = template.pragmaTags ∧
      template.pragmas = (TokenSequence.read source.toList).tokens.filterMap
        fun token => token.lexeme.pragma?) ∧
    ∀ (pairs : List (String × String)) (texts : List (List Char)),
      (∀ pair ∈ pairs, Pragma.Writable pair) → Text.Spread Pragma.Spells pairs texts →
        Entries.Keeps pairs (Pragma.parse (Text.joinPieces ',' texts)) := by
  constructor
  · intro name source template parsed
    exact ⟨template.pragmas_eq_pragmaTags, pragmas_eq_of_parse parsed⟩
  · intro pairs texts writable spread
    have entries : _ = pairs := spread.map_filter_pieces fun pair member piece spells =>
      Pragma.entryOfPiece_of_spells (writable pair member) spells
    rw [Pragma.parse, entries]
    exact Entries.keeps_ofPairs pairs

/-- A tag in a section before one behind it, and a key without a name between two values of
the same key. -/
theorem Template.pragmas_read_back_repeated :
    let source := "\x7b\x7b#a\x7d\x7d\x7b\x7b%x:1\x7d\x7d\x7b\x7b/a\x7d\x7d\x7b\x7b%y\x7d\x7d"
    (∃ template, parse "page" source = .ok template ∧
      template.pragmaTags = [[("x", "1")], [("y", "")]]) ∧
    Entries.Keeps [("mode", "a"), ("", " b:c"), ("mode", ""), ("dry", "")]
      (Pragma.parse ",mode:a,: b:c,,mode,dry:,".toList) := by
  intro source
  constructor
  · have accepted : (parse "page" source).isOk = true := by decide +kernel
    cases parsed : parse "page" source with
    | error fault =>
        rw [parsed] at accepted
        cases accepted
    | ok template =>
        rcases pragmas_read_back.1 _ _ _ parsed with ⟨tags, written⟩
        refine ⟨template, rfl, ?_⟩
        rw [← tags, written]
        decide +kernel
  · refine pragmas_read_back.2 [("mode", "a"), ("", " b:c"), ("mode", ""), ("dry", "")]
      ["".toList, "mode:a".toList, ": b:c".toList, "".toList, "mode".toList, "dry:".toList,
        "".toList] ?_ ?_
    · simp only [List.forall_mem_cons]
      exact ⟨⟨by decide, by decide⟩, ⟨by decide, by decide⟩, ⟨by decide, by decide⟩,
        ⟨by decide, by decide⟩, nofun⟩
    · exact .gap (.cons (.full "mode" "a") (.cons (.full "" " b:c") (.gap (.cons
        (.bare (by decide)) (.cons (.full "dry" "") (.gap .nil))))))

end Mustache
