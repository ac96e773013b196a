import Mustache.Proofs.Token.Lexeme
import Mustache.Template

namespace Mustache

/-! How lexemes nest. A node is spelled by one lexeme, or by an opening tag, the
lexemes inside it and the closing tag of its name. Building a forest succeeds
exactly on the lexemes that spell one, so a template is told by its lexemes. -/

/-- The kind and the text of a tag that stands alone. -/
def TagContent.leaf? : TagContent → Option (LeafKind × String)
  | .leaf kind text => some (kind, text)
  | .redelimit next => some (.redelimit, String.ofList next.toChars)
  | .opening _ _ | .closing _ => none

mutual
/-- The node is written as these lexemes. -/
def Node.Spelled : Node → List Lexeme → Prop
  | .plain text markers, lexemes => lexemes = [.plain text markers]
  | .leaf kind text body markers, lexemes =>
    ∃ content : TagContent, content.leaf? = some (kind, text) ∧
      lexemes = [.tag content body markers]
  | .group kind name body markers children closeBody closeMarkers, lexemes =>
    ∃ inner, Node.ForestSpelled children inner ∧
      lexemes = .tag (.opening kind name) body markers ::
        (inner ++ [.tag (.closing name) closeBody closeMarkers])

def Node.ForestSpelled : List Node → List Lexeme → Prop
  | [], lexemes => lexemes = []
  | node :: rest, lexemes =>
    ∃ first others, node.Spelled first ∧ Node.ForestSpelled rest others ∧
      lexemes = first ++ others
end

mutual
theorem Node.toChars_of_spelled {node : Node} {lexemes : List Lexeme}
    (spelled : node.Spelled lexemes) : node.toChars = lexemes.flatMap Lexeme.toChars := by
  cases node with
  | plain text markers =>
      rw [Node.Spelled] at spelled
      subst spelled
      simp [Node.toChars, Lexeme.toChars]
  | leaf kind text body markers =>
      rcases spelled with ⟨content, -, rfl⟩
      simp [Node.toChars, Lexeme.toChars]
  | group kind name body markers children closeBody closeMarkers =>
      rcases spelled with ⟨inner, spelled, rfl⟩
      simp [Node.toChars, Lexeme.toChars, Node.forestToChars_of_spelled spelled]

theorem Node.forestToChars_of_spelled {forest : List Node} {lexemes : List Lexeme}
    (spelled : Node.ForestSpelled forest lexemes) :
    Node.forestToChars forest = lexemes.flatMap Lexeme.toChars := by
  cases forest with
  | nil =>
      rw [Node.ForestSpelled] at spelled
      subst spelled
      rfl
  | cons node rest =>
      rcases spelled with ⟨first, others, one, more, rfl⟩
      rw [Node.forestToChars, Node.toChars_of_spelled one, Node.forestToChars_of_spelled more,
        List.flatMap_append]
end

namespace Forest

/-! ## What is built is spelled -/

/-- The lexemes that are left close all open sections, and the forest is what
the sections and the nodes before them become. -/
def Completes : List Frame → List Node → List Lexeme → Forest → Prop
  | [], nodes, lexemes, forest =>
    ∃ more, Node.ForestSpelled more lexemes ∧ forest = nodes.reverse ++ more
  | frame :: frames, nodes, lexemes, forest =>
    ∃ more inner closeBody closeMarkers rest, Node.ForestSpelled more inner ∧
      lexemes = inner ++ .tag (.closing frame.name) closeBody closeMarkers :: rest ∧
      Completes frames
        (.group frame.kind frame.name frame.body frame.markers (nodes.reverse ++ more) closeBody
          closeMarkers :: frame.siblings) rest forest

/-- A node that was read already may be read now instead. -/
theorem Completes.node (node : Node) {frames : List Frame} {nodes : List Node}
    {first rest : List Lexeme} {forest : Forest} (spelled : node.Spelled first)
    (completes : Completes frames (node :: nodes) rest forest) :
    Completes frames nodes (first ++ rest) forest := by
  cases frames with
  | nil =>
      rcases completes with ⟨more, others, equal⟩
      refine ⟨node :: more, ⟨first, rest, spelled, others, rfl⟩, ?_⟩
      rw [equal]
      simp
  | cons frame frames =>
      rcases completes with ⟨more, inner, closeBody, closeMarkers, last, others, equal, completes⟩
      refine ⟨node :: more, first ++ inner, closeBody, closeMarkers, last,
        ⟨first, inner, spelled, others, rfl⟩, ?_, ?_⟩
      · rw [equal, List.append_assoc]
      · simpa using completes

theorem assemble_of_leaf? {defect : Option Defect} {content : TagContent} {kind : LeafKind}
    {text body : String} {markers : Markers} {span : Span} {rest : List Token}
    {frames : List Frame} {nodes : List Node} (stands : content.leaf? = some (kind, text)) :
    assemble defect (.tag content body markers span :: rest) frames nodes =
      assemble defect rest frames (.leaf kind text body markers :: nodes) := by
  cases content with
  | leaf _ _ | redelimit _ =>
      cases stands
      rfl
  | opening _ _ | closing _ => cases stands

/-- An opening tag starts a section that the lexemes behind it close. -/
theorem Completes.opening {frames : List Frame} {nodes : List Node} {kind : GroupKind}
    {name body : String} {markers : Markers} {offset : Nat} {lexemes : List Lexeme}
    {forest : Forest}
    (completes : Completes (⟨kind, name, body, markers, offset, nodes⟩ :: frames) [] lexemes
      forest) :
    Completes frames nodes (.tag (.opening kind name) body markers :: lexemes) forest := by
  rcases completes with ⟨children, inner, closeBody, closeMarkers, rest, spelled, rfl, completes⟩
  have group : Node.Spelled (.group kind name body markers children closeBody closeMarkers)
      (.tag (.opening kind name) body markers ::
        (inner ++ [.tag (.closing name) closeBody closeMarkers])) :=
    ⟨inner, spelled, rfl⟩
  have whole := Completes.node _ group completes
  simpa using whole

theorem completes_of_assemble {defect : Option Defect} {tokens : List Token}
    {frames : List Frame} {nodes : List Node} {forest : Forest}
    (built : assemble defect tokens frames nodes = .ok forest) :
    defect = none ∧ Completes frames nodes (tokens.map Token.lexeme) forest := by
  induction tokens generalizing frames nodes with
  | nil =>
      cases defect with
      | some defect => cases built
      | none =>
      cases frames with
      | cons frame frames => cases built
      | nil =>
          cases built
          exact ⟨rfl, [], rfl, by simp⟩
  | cons token rest induction =>
      cases token with
      | plain text markers =>
          rcases induction built with ⟨perfect, completes⟩
          exact ⟨perfect, Completes.node (.plain text markers) rfl completes⟩
      | tag content body markers span =>
          cases content with
          | leaf kind text =>
              rcases induction built with ⟨perfect, completes⟩
              exact ⟨perfect, Completes.node (.leaf kind text body markers) ⟨_, rfl, rfl⟩
                completes⟩
          | redelimit next =>
              rcases induction built with ⟨perfect, completes⟩
              exact ⟨perfect, Completes.node
                (.leaf .redelimit (String.ofList next.toChars) body markers)
                ⟨_, rfl, rfl⟩ completes⟩
          | opening kind name =>
              rcases induction built with ⟨perfect, completes⟩
              exact ⟨perfect, completes.opening⟩
          | closing name =>
              cases frames with
              | nil => cases built
              | cons frame frames =>
                  rw [assemble] at built
                  split at built
                  · next same =>
                    subst same
                    rcases induction built with ⟨perfect, completes⟩
                    refine ⟨perfect, [], [], body, markers, _, rfl, rfl, ?_⟩
                    rwa [List.append_nil]
                  · cases built

/-! ## What is spelled is built -/

mutual
/-- The lexemes of a node become that node, whatever stands around them. -/
theorem assemble_of_spelled {node : Node} {tokens : List Token}
    (spelled : node.Spelled (tokens.map Token.lexeme)) (defect : Option Defect)
    (rest : List Token) (frames : List Frame) (nodes : List Node) :
    assemble defect (tokens ++ rest) frames nodes =
      assemble defect rest frames (node :: nodes) := by
  cases node with
  | plain text markers =>
      rcases List.map_eq_singleton_iff.mp spelled with ⟨token, rfl, shown⟩
      cases token with
      | tag => cases shown
      | plain =>
          cases shown
          rfl
  | leaf kind text body markers =>
      rcases spelled with ⟨content, stands, spelled⟩
      rcases List.map_eq_singleton_iff.mp spelled with ⟨token, rfl, shown⟩
      cases token with
      | plain => cases shown
      | tag =>
          cases shown
          exact assemble_of_leaf? stands
  | group kind name body markers children closeBody closeMarkers =>
      rcases spelled with ⟨inner, spelled, equal⟩
      rcases List.map_eq_cons_iff.mp equal with ⟨opening, others, rfl, shown, equal⟩
      rcases List.map_eq_append_iff.mp equal with ⟨inside, behind, rfl, rfl, last⟩
      rcases List.map_eq_singleton_iff.mp last with ⟨closing, rfl, closed⟩
      cases opening with
      | plain => cases shown
      | tag =>
      cases closing with
      | plain => cases closed
      | tag =>
          cases shown
          cases closed
          have filled := assembleForest_of_spelled spelled defect
          simp only [List.cons_append, List.append_assoc, List.nil_append, assemble, filled,
            if_true, List.append_nil, List.reverse_reverse]

theorem assembleForest_of_spelled {forest : List Node} {tokens : List Token}
    (spelled : Node.ForestSpelled forest (tokens.map Token.lexeme)) (defect : Option Defect)
    (rest : List Token) (frames : List Frame) (nodes : List Node) :
    assemble defect (tokens ++ rest) frames nodes =
      assemble defect rest frames (forest.reverse ++ nodes) := by
  cases forest with
  | nil =>
      rw [Node.ForestSpelled, List.map_eq_nil_iff] at spelled
      subst spelled
      rfl
  | cons node others =>
      rcases spelled with ⟨first, second, one, more, equal⟩
      rcases List.map_eq_append_iff.mp equal with ⟨front, back, rfl, rfl, rfl⟩
      rw [List.append_assoc, assemble_of_spelled one, assembleForest_of_spelled more]
      simp
end

end Forest

namespace Template

/-- A template has exactly the forest that legible lexemes of its source spell. -/
theorem parse_eq_ok_iff {name source : String} {template : Template} :
    parse name source = .ok template ↔
      template.name = name ∧ ∃ lexemes, Node.ForestSpelled template.forest lexemes ∧
        Legible .standard lexemes ∧ lexemes.flatMap Lexeme.toChars = source.toList := by
  constructor
  · intro parsed
    rw [parse] at parsed
    split at parsed
    · next forest built =>
      cases parsed
      rcases Forest.completes_of_assemble built with ⟨perfect, more, spelled, equal⟩
      rcases legible_of_readFrom Markers.sound_standard [] perfect with
        ⟨tokens, same, legible, spells⟩
      rw [List.reverse_nil, List.nil_append] at same equal
      subst equal
      refine ⟨rfl, _, ?_, legible, spells⟩
      rw [← same]
      exact spelled
    · cases parsed
  · rintro ⟨rfl, lexemes, spelled, legible, spells⟩
    have view : (Cursor.start source.toList).unread = lexemes.flatMap Lexeme.toChars := spells.symm
    rcases readFrom_of_legible lexemes Markers.sound_standard legible view [] with
      ⟨tokens, read, same⟩
    subst same
    have built := Forest.assembleForest_of_spelled spelled none [] [] []
    rw [List.append_nil, List.append_nil] at built
    have whole : Forest.ofTokens (.read source.toList) = .ok template.forest := by
      rw [Forest.ofTokens, TokenSequence.read, read]
      rw [List.reverse_nil, List.nil_append, built, Forest.assemble, List.reverse_reverse]
    rw [parse, whole]

end Template

end Mustache
