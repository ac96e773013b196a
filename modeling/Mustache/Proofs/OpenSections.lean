import Mustache.Proofs.Nesting

namespace Mustache

/-! Building a forest part by part. Behind some of the tokens there are sections open and
nodes built, and the rest goes on from there. The building can stop in the middle at one
kind of tag only: a closing tag that does not belong to the innermost open section. -/

namespace Forest

/-- From the open sections and the nodes before some tokens, those behind them are built. -/
inductive Builds : List Frame → List Node → List Token → List Frame → List Node → Prop where
  | here {frames : List Frame} {nodes : List Node} : Builds frames nodes [] frames nodes
  | plain {frames others : List Frame} {nodes built : List Node} {text : String}
      {markers : Markers} {rest : List Token}
      (builds : Builds frames (.plain text markers :: nodes) rest others built) :
      Builds frames nodes (.plain text markers :: rest) others built
  | leaf {frames others : List Frame} {nodes built : List Node} {content : TagContent}
      {kind : LeafKind} {text body : String} {markers : Markers} {span : Span} {rest : List Token}
      (stands : content.leaf? = some (kind, text))
      (builds : Builds frames (.leaf kind text body markers :: nodes) rest others built) :
      Builds frames nodes (.tag content body markers span :: rest) others built
  | opening {frames others : List Frame} {nodes built : List Node} {kind : GroupKind}
      {name body : String} {markers : Markers} {span : Span} {rest : List Token}
      (builds : Builds (⟨kind, name, body, markers, span.offset, nodes⟩ :: frames) [] rest others
        built) :
      Builds frames nodes (.tag (.opening kind name) body markers span :: rest) others built
  | closing {frame : Frame} {frames others : List Frame} {nodes built : List Node}
      {body : String} {markers : Markers} {span : Span} {rest : List Token}
      (builds : Builds frames
        (.group frame.kind frame.name frame.body frame.markers nodes.reverse body markers ::
          frame.siblings) rest others built) :
      Builds (frame :: frames) nodes (.tag (.closing frame.name) body markers span :: rest) others
        built

/-- What is wrong with a closing tag of a name where these sections are open. -/
inductive Unmatched (name : String) : List Frame → Problem → Prop where
  | unexpected : Unmatched name [] (.unexpectedClosing name)
  | mismatch {frame : Frame} {frames : List Frame} (different : frame.name ≠ name) :
      Unmatched name (frame :: frames) (.closingMismatch frame.name name)

/-- All is built up to a closing tag that does not match. -/
inductive Stops (frames : List Frame) (nodes : List Node) (tokens : List Token) : Prop where
  | intro {earlier later : List Token} {name body : String} {markers : Markers} {span : Span}
      {others : List Frame} {built : List Node} {problem : Problem}
      (place : tokens = earlier ++ .tag (.closing name) body markers span :: later)
      (builds : Builds frames nodes earlier others built)
      (unmatched : Unmatched name others problem)

variable {frames others : List Frame} {nodes built : List Node} {tokens rest : List Token}

namespace Builds

theorem assemble_eq (builds : Builds frames nodes tokens others built) (defect : Option Defect)
    (rest : List Token) :
    assemble defect (tokens ++ rest) frames nodes = assemble defect rest others built := by
  induction builds with
  | here => rfl
  | plain builds induction => exact induction
  | leaf stands builds induction => exact (assemble_of_leaf? stands).trans induction
  | opening builds induction => exact induction
  | closing builds induction =>
      rw [List.cons_append, assemble, if_pos rfl]
      exact induction

theorem append {further : List Frame} {last : List Node}
    (builds : Builds frames nodes tokens others built)
    (behind : Builds others built rest further last) :
    Builds frames nodes (tokens ++ rest) further last := by
  induction builds with
  | here => exact behind
  | plain builds induction => exact .plain (induction behind)
  | leaf stands builds induction => exact .leaf stands (induction behind)
  | opening builds induction => exact .opening (induction behind)
  | closing builds induction => exact .closing (induction behind)

theorem divide (builds : Builds frames nodes (tokens ++ rest) others built) :
    ∃ between middle, Builds frames nodes tokens between middle ∧
      Builds between middle rest others built := by
  induction tokens generalizing frames nodes with
  | nil => exact ⟨frames, nodes, .here, builds⟩
  | cons token tokens induction =>
      cases builds with
      | plain builds =>
          rcases induction builds with ⟨between, middle, first, second⟩
          exact ⟨between, middle, .plain first, second⟩
      | leaf stands builds =>
          rcases induction builds with ⟨between, middle, first, second⟩
          exact ⟨between, middle, .leaf stands first, second⟩
      | opening builds =>
          rcases induction builds with ⟨between, middle, first, second⟩
          exact ⟨between, middle, .opening first, second⟩
      | closing builds =>
          rcases induction builds with ⟨between, middle, first, second⟩
          exact ⟨between, middle, .closing first, second⟩

/-- An open section was open before, or its opening tag is among the tokens. -/
theorem frame_of_mem (builds : Builds frames nodes tokens others built) {frame : Frame}
    (member : frame ∈ others) : frame ∈ frames ∨ ∃ earlier span later,
      tokens = earlier ++
        .tag (.opening frame.kind frame.name) frame.body frame.markers span :: later ∧
        span.offset = frame.offset := by
  induction builds with
  | here => exact .inl member
  | plain builds induction | leaf stands builds induction =>
      rcases induction member with before | ⟨earlier, span, later, rfl, same⟩
      · exact .inl before
      · exact .inr ⟨_ :: earlier, span, later, rfl, same⟩
  | opening builds induction =>
      rcases induction member with before | ⟨earlier, span, later, rfl, same⟩
      · rcases List.mem_cons.mp before with rfl | before
        · exact .inr ⟨[], _, _, rfl, rfl⟩
        · exact .inl before
      · exact .inr ⟨_ :: earlier, span, later, rfl, same⟩
  | closing builds induction =>
      rcases induction member with before | ⟨earlier, span, later, rfl, same⟩
      · exact .inl (List.mem_cons_of_mem _ before)
      · exact .inr ⟨_ :: earlier, span, later, rfl, same⟩

end Builds

theorem builds_plains (frames : List Frame) (nodes : List Node) (text : List Char)
    (markers : Markers) :
    ∃ built, Builds frames nodes (Token.plains text markers) frames built := by
  unfold Token.plains
  split
  · exact ⟨nodes, .here⟩
  · exact ⟨_, .plain .here⟩

/-- Texts open and close no sections. -/
theorem Builds.eq_of_plains {text : List Char} {markers : Markers}
    (builds : Builds frames nodes (Token.plains text markers) others built) : others = frames := by
  unfold Token.plains at builds
  split at builds
  · cases builds
    rfl
  · cases builds with
    | plain builds =>
        cases builds
        rfl

theorem Builds.exists_assemble_eq (builds : Builds frames nodes tokens others built)
    (defect : Option Defect) (text : List Char) (markers : Markers) :
    ∃ last, assemble defect (tokens ++ Token.plains text markers) frames nodes =
      assemble defect [] others last := by
  rcases builds_plains others built text markers with ⟨last, plain⟩
  have whole := (builds.append plain).assemble_eq defect []
  rw [List.append_nil] at whole
  exact ⟨last, whole⟩

theorem assemble_of_unmatched {name body : String} {markers : Markers} {span : Span}
    {problem : Problem} (unmatched : Unmatched name frames problem) (defect : Option Defect)
    (rest : List Token) (nodes : List Node) :
    assemble defect (.tag (.closing name) body markers span :: rest) frames nodes =
      .error ⟨span.offset, problem⟩ := by
  cases unmatched with
  | unexpected => rfl
  | mismatch different => rw [assemble, if_neg different]

/-- All tokens are built, or one of them does not match. -/
theorem builds_or_stops (frames : List Frame) (nodes : List Node) (tokens : List Token) :
    (∃ others built, Builds frames nodes tokens others built) ∨ Stops frames nodes tokens := by
  induction tokens generalizing frames nodes with
  | nil => exact .inl ⟨frames, nodes, .here⟩
  | cons token rest induction =>
      -- A token that is built is put in front of what comes of the rest.
      have step {frames' : List Frame} {nodes' : List Node}
          (further : ∀ {tokens others built}, Builds frames' nodes' tokens others built →
            Builds frames nodes (token :: tokens) others built) :
          (∃ others built, Builds frames nodes (token :: rest) others built) ∨
            Stops frames nodes (token :: rest) := by
        rcases induction frames' nodes' with ⟨others, built, builds⟩ | ⟨rfl, builds, unmatched⟩
        · exact .inl ⟨others, built, further builds⟩
        · exact .inr (.intro rfl (further builds) unmatched)
      cases token with
      | plain text markers => exact step .plain
      | tag content body markers span =>
          cases content with
          | leaf kind text | redelimit next => exact step (.leaf rfl)
          | opening kind name => exact step .opening
          | closing name =>
              cases frames with
              | nil => exact .inr (.intro (List.nil_append _).symm .here .unexpected)
              | cons frame frames =>
                  by_cases same : frame.name = name
                  · subst same
                    exact step .closing
                  · exact .inr (.intro (List.nil_append _).symm .here (.mismatch same))

end Forest

end Mustache
