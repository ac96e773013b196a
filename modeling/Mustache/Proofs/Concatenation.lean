import Mathlib.Tactic.Choose
import Mustache.Proofs.Likeness
import Mustache.Proofs.Nesting
import Mustache.Proofs.Rendering

namespace Mustache

/-! Two sources written one behind the other. If the first one leaves the standard marks
in force and does not end in the middle of one, the whole is read as the two are, but for
a text at the end of the first and one at the start of the second, which become one. So
the whole writes what the two write. -/

open Rendering Text

variable {Lambda : Type}

/-! ## Lexemes -/

namespace Lexeme

/-- Sequences written one behind the other, where two texts at the seam become one. -/
def join : List Lexeme → List Lexeme → List Lexeme
  | [], second => second
  | [.plain text markers], .plain more _ :: rest => .plain (text ++ more) markers :: rest
  | lexeme :: rest, second => lexeme :: join rest second

theorem flatMap_join (first second : List Lexeme) :
    (join first second).flatMap toChars =
      first.flatMap toChars ++ second.flatMap toChars := by
  fun_induction join first second with
  | case1 second => rfl
  | case2 text markers more marks rest => simp [toChars]
  | case3 lexeme rest second apart induction => simp [induction]

end Lexeme

/-- A text with no mark in it is kept apart from the first mark behind it. -/
theorem EndsBefore.append {text more : String} {rest : List Lexeme}
    (absent : ¬ Markers.standard.opening <:+: text.toList)
    (last : text.toList.getLast? ≠ some '{') (ended : EndsBefore .standard more rest) :
    EndsBefore .standard (text ++ more) rest := by
  cases rest with
  | nil =>
      rw [EndsBefore, String.toList_append]
      exact not_within_append absent last ended
  | cons lexeme rest =>
      cases lexeme with
      | plain => exact ended
      | tag =>
          rw [EndsBefore, String.toList_append]
          exact Clear.append absent last ended

theorem Legible.join {markers : Markers} {first second : List Lexeme}
    (legible : Legible markers first) (follows : Legible .standard second)
    (marks : first.foldl (fun markers lexeme => lexeme.next markers) markers = .standard)
    (last : (first.flatMap Lexeme.toChars).getLast? ≠ some '{') :
    Legible markers (Lexeme.join first second) := by
  induction legible with
  | nil =>
      cases marks
      exact follows
  | @plain markers text rest nonempty ended legible induction =>
      cases rest with
      | nil =>
          cases marks
          rw [List.flatMap_cons, List.flatMap_nil, List.append_nil] at last
          cases follows with
          | nil => exact .plain nonempty ended .nil
          | @plain _ more rest _ endedMore follows =>
              refine .plain ?_ (endedMore.append ended last) follows
              intro empty
              exact nonempty (String.append_eq_empty_iff.mp empty).1
          | tag form follows =>
              refine .plain nonempty ?_ (.tag form follows)
              have clear := Clear.append ended last (clear_nil _)
              rwa [List.append_nil] at clear
      | cons lexeme rest =>
          rw [List.flatMap_cons] at last
          have joined := induction marks (getLast?_ne_of_append last)
          cases lexeme with
          | plain => exact absurd ended id
          | tag content body own => exact .plain nonempty ended joined
  | @tag markers content body rest form legible induction =>
      rw [List.flatMap_cons] at last
      exact .tag form (induction marks (getLast?_ne_of_append last))

/-! ## Forests -/

namespace Forest

/-- Forests written one behind the other, where two texts at the seam become one. -/
def join : Forest → Forest → Forest
  | [], second => second
  | [.plain text markers], .plain more _ :: rest => .plain (text ++ more) markers :: rest
  | node :: rest, second => node :: join rest second

theorem forestPragmas_join (first second : Forest) :
    Node.forestPragmas (join first second) =
      Node.forestPragmas first ++ Node.forestPragmas second := by
  fun_induction join first second with
  | case1 second => rfl
  | case2 text markers more marks rest => rfl
  | case3 node rest second apart induction =>
      rw [Node.forestPragmas, Node.forestPragmas, induction, List.append_assoc]

end Forest

theorem Lexeme.join_tag (before : List Lexeme) (content : TagContent) (body : String)
    (markers : Markers) (rest second : List Lexeme) :
    join (before ++ .tag content body markers :: rest) second =
      before ++ .tag content body markers :: join rest second := by
  induction before with
  | nil => rfl
  | cons lexeme before induction =>
      rw [List.cons_append, List.cons_append, ← induction]
      cases lexeme with
      | tag => rfl
      | plain => cases before <;> rfl

theorem Node.exists_first_lexeme {node : Node} {lexemes : List Lexeme}
    (spelled : node.Spelled lexemes) :
    ∃ lexeme rest, lexemes = lexeme :: rest ∧
      ∀ text markers, lexeme = .plain text markers → node = .plain text markers := by
  cases node with
  | plain text markers =>
      cases spelled
      refine ⟨_, _, rfl, ?_⟩
      rintro _ _ ⟨⟩
      rfl
  | leaf kind text body markers =>
      rcases spelled with ⟨content, -, rfl⟩
      exact ⟨_, _, rfl, nofun⟩
  | group kind name body markers children closeBody closeMarkers =>
      rcases spelled with ⟨inner, -, rfl⟩
      exact ⟨_, _, rfl, nofun⟩

/-- The joined forest is spelled by the joined lexemes. -/
theorem Node.forestSpelled_join {first second : Forest} {lexemes more : List Lexeme}
    (spelled : Node.ForestSpelled first lexemes) (follows : Node.ForestSpelled second more) :
    Node.ForestSpelled (Forest.join first second) (Lexeme.join lexemes more) := by
  fun_induction Forest.join first second generalizing lexemes with
  | case1 second =>
      cases spelled
      exact follows
  | case2 text markers next marks rest =>
      rcases spelled with ⟨one, others, shown, none, rfl⟩
      cases shown
      cases none
      rcases follows with ⟨other, behind, shown, follows, rfl⟩
      cases shown
      exact ⟨_, behind, rfl, follows, rfl⟩
  | case3 node rest second apart induction =>
      rcases spelled with ⟨one, others, shown, spelled, rfl⟩
      refine ⟨one, _, shown, induction spelled follows, ?_⟩
      cases node with
      | plain text markers =>
          cases shown
          cases rest with
          | cons node rest =>
              rcases spelled with ⟨one, others, shown, -, rfl⟩
              rcases Node.exists_first_lexeme shown with ⟨lexeme, behind, rfl, -⟩
              rfl
          | nil =>
              cases spelled
              cases second with
              | nil =>
                  cases follows
                  rfl
              | cons node rest =>
                  rcases follows with ⟨other, behind, shown, -, rfl⟩
                  rcases Node.exists_first_lexeme shown with ⟨lexeme, _, rfl, same⟩
                  cases lexeme with
                  | tag => rfl
                  | plain next marks =>
                      rw [same next marks rfl] at apart
                      exact (apart _ _ _ _ _ rfl rfl rfl).elim
      | leaf kind text body markers =>
          rcases shown with ⟨content, -, rfl⟩
          rfl
      | group kind name body markers children closeBody closeMarkers =>
          rcases shown with ⟨inner, -, rfl⟩
          have joined := Lexeme.join_tag (.tag (.opening kind name) body markers :: inner)
            (.closing name) closeBody closeMarkers others more
          simpa using joined

/-! ## Rendering -/

section Alone

variable (call : Lambda → String → Scopes Lambda → String)

/-- Rendered alone, the node writes the text, whatever the name of its template and
whatever the output is before. -/
def Node.WritesAlone (scopes : Scopes Lambda) (node : Node) (text : String) : Prop :=
  ∀ including : String → Scopes Lambda → Rendering Unit Unit,
    (∀ name scopes, Writes (including name scopes) "") →
      Writes (node.render (.alone call) including scopes) text

def Forest.WritesAlone (scopes : Scopes Lambda) (forest : Forest) (text : String) : Prop :=
  ∀ including : String → Scopes Lambda → Rendering Unit Unit,
    (∀ name scopes, Writes (including name scopes) "") →
      Writes (Node.renderForest (.alone call) including scopes forest) text

theorem Node.writesAlone_plain (scopes : Scopes Lambda) (text : String) (markers : Markers) :
    WritesAlone call scopes (.plain text markers) text := by
  intro including _
  rw [Node.render]
  exact writes_writeRaw text

theorem Forest.writesAlone_nil (scopes : Scopes Lambda) : WritesAlone call scopes [] "" := by
  intro including _
  rw [Node.renderForest]
  exact writes_pure

variable {call} in
theorem Forest.WritesAlone.cons {scopes : Scopes Lambda} {node : Node} {rest : Forest}
    {text more : String} (first : node.WritesAlone call scopes text)
    (others : WritesAlone call scopes rest more) :
    WritesAlone call scopes (node :: rest) (text ++ more) := by
  intro including silent
  rw [Node.renderForest]
  exact (first including silent).andThen (others including silent)

mutual
/-- A node writes some text, whatever the lambdas are that it calls. -/
theorem Node.exists_writesAlone (node : Node) (scopes : Scopes Lambda) :
    ∃ text, node.WritesAlone call scopes text := by
  cases node with
  | plain text markers => exact ⟨text, Node.writesAlone_plain call scopes text markers⟩
  | leaf kind name body markers =>
      let shown := (Surroundings.alone call).textOf (scopes.lookup name) scopes
      cases kind with
      | name =>
          refine ⟨Encoding.html shown, fun including _ => ?_⟩
          rw [Node.render]
          exact writes_write shown
      | unescaped | triple =>
          refine ⟨shown, fun including _ => ?_⟩
          rw [Node.render]
          exact writes_writeRaw shown
      | comment | pragma | redelimit =>
          refine ⟨"", fun including _ => ?_⟩
          rw [Node.render]
          exact writes_pure
      | inclusion =>
          refine ⟨"", fun including silent => ?_⟩
          rw [Node.render]
          exact Writes.after (silent name scopes) writes_consult
  | group kind name body markers children closeBody closeMarkers =>
      choose text writes using fun inner => Forest.exists_writesAlone children inner
      cases kind with
      | inverted =>
          refine ⟨if (scopes.lookup name).isFalsy then text scopes else "",
            fun including silent => ?_⟩
          rw [Node.render]
          refine Writes.after ?_ writes_consult
          split
          · exact writes scopes including silent
          · exact writes_pure
      | «section» =>
          by_cases called : ∃ lambda, scopes.lookup name = .lambda lambda
          · rcases called with ⟨lambda, found⟩
            let whole : Node :=
              .group .section name body markers children closeBody closeMarkers
            refine ⟨call lambda whole.toSource scopes, fun including _ => ?_⟩
            rw [Node.render, found]
            exact Writes.after (writes_writeRaw _) writes_consult
          · refine ⟨String.join ((scopes.rounds (scopes.lookup name)).map text),
              fun including silent => ?_⟩
            rw [Node.render_section _ _ _ (not_exists.mp called)]
            exact Writes.after (writes_forEach _ fun inner _ => writes inner including silent)
              writes_consult

theorem Forest.exists_writesAlone (forest : List Node) (scopes : Scopes Lambda) :
    ∃ text, Forest.WritesAlone call scopes forest text := by
  cases forest with
  | nil => exact ⟨_, Forest.writesAlone_nil call scopes⟩
  | cons node rest =>
      rcases Node.exists_writesAlone node scopes with ⟨text, writes⟩
      rcases Forest.exists_writesAlone rest scopes with ⟨more, others⟩
      exact ⟨_, Forest.WritesAlone.cons writes others⟩
end

/-- The joined forest writes what the two forests write. -/
theorem Forest.exists_writesAlone_join (scopes : Scopes Lambda) (first second : Forest) :
    ∃ text more, WritesAlone call scopes first text ∧ WritesAlone call scopes second more ∧
      WritesAlone call scopes (join first second) (text ++ more) := by
  fun_induction join first second with
  | case1 second =>
      rcases Forest.exists_writesAlone call second scopes with ⟨more, writes⟩
      refine ⟨"", more, Forest.writesAlone_nil call scopes, writes, ?_⟩
      rwa [String.empty_append]
  | case2 text markers next marks rest =>
      rcases Forest.exists_writesAlone call rest scopes with ⟨more, writes⟩
      have plain := Node.writesAlone_plain call scopes
      have alone := WritesAlone.cons (plain text markers) (Forest.writesAlone_nil call scopes)
      have joined := WritesAlone.cons (plain (text ++ next) markers) writes
      rw [String.append_empty] at alone
      rw [String.append_assoc] at joined
      exact ⟨text, next ++ more, alone, WritesAlone.cons (plain next marks) writes, joined⟩
  | case3 node rest second apart induction =>
      rcases Node.exists_writesAlone call node scopes with ⟨text, writes⟩
      rcases induction with ⟨behind, more, first, second, joined⟩
      have whole := WritesAlone.cons writes joined
      rw [← String.append_assoc] at whole
      exact ⟨text ++ behind, more, WritesAlone.cons writes first, second, whole⟩

variable {call} in
theorem Template.renderToString_of_writesAlone {template : Template} {scopes : Scopes Lambda}
    {text : String} (writes : template.forest.WritesAlone call scopes text) :
    template.renderToString call scopes = .ok text := by
  have walks := writes _ (writes_renderInclusion call 31 template.name)
  rcases (walks.after (writes_inspect template)) ⟨.empty .html, (), #[]⟩ rfl with
    ⟨after, steps, -, written⟩
  have ran : (template.renderAlone call scopes).run ⟨.empty .html, (), #[]⟩ = .ok () after :=
    steps
  rw [renderToString, ran]
  change Except.ok after.output.text = _
  rw [written]
  exact congrArg Except.ok String.empty_append

end Alone

/-! ## Templates -/

theorem TokenSequence.lastMarkers_read {source : List Char} {lexemes : List Lexeme}
    (legible : Legible .standard lexemes) (spells : lexemes.flatMap Lexeme.toChars = source) :
    (read source).lastMarkers =
      lexemes.foldl (fun markers lexeme => lexeme.next markers) .standard := by
  have view : (Cursor.start source).unread = lexemes.flatMap Lexeme.toChars := spells.symm
  rcases readFrom_of_legible lexemes Markers.sound_standard legible view [] with
    ⟨tokens, read, rfl⟩
  rw [lastMarkers, TokenSequence.read, read, List.foldl_map]
  rfl

namespace Template

/-- Two sources written one behind the other make a template that writes what the two
write, and has the pragmas of both. -/
theorem parse_append {first second : String} {name behind : String} {one other : Template}
    (parsed : parse name first = .ok one) (more : parse behind second = .ok other)
    (marks : (TokenSequence.read first.toList).lastMarkers = .standard)
    (last : first.toList.getLast? ≠ some '{') (title : String) :
    ∃ whole, parse title (first ++ second) = .ok whole ∧
      whole.pragmas = one.pragmas ++ other.pragmas ∧
      ∀ (call : Lambda → String → Scopes Lambda → String) (scopes : Scopes Lambda),
        ∃ text rest, one.renderToString call scopes = .ok text ∧
          other.renderToString call scopes = .ok rest ∧
          whole.renderToString call scopes = .ok (text ++ rest) := by
  rcases parse_eq_ok_iff.mp parsed with ⟨-, lexemes, spelled, legible, spells⟩
  rcases parse_eq_ok_iff.mp more with ⟨-, lexemes', spelled', legible', spells'⟩
  rw [TokenSequence.lastMarkers_read legible spells] at marks
  rw [← spells] at last
  have written : (Lexeme.join lexemes lexemes').flatMap Lexeme.toChars =
      (first ++ second).toList := by
    rw [Lexeme.flatMap_join, spells, spells', String.toList_append]
  refine ⟨⟨title, .join one.forest other.forest⟩, parse_eq_ok_iff.mpr ⟨rfl, _,
    Node.forestSpelled_join spelled spelled', legible.join legible' marks last, written⟩,
    Forest.forestPragmas_join _ _, fun call scopes => ?_⟩
  rcases Forest.exists_writesAlone_join call scopes one.forest other.forest with
    ⟨text, rest, writes, writesMore, joined⟩
  exact ⟨text, rest, renderToString_of_writesAlone writes,
    renderToString_of_writesAlone writesMore, renderToString_of_writesAlone joined⟩

/-- The marks are set back before the seam, at which two texts meet, and the lambda is
shown its section as it is written. -/
theorem parse_append_moved_marks :
    let call : Unit → String → Scopes Unit → String := fun _ text _ => text
    let scopes : Scopes Unit := .root [("n", .text "<"), ("same", .lambda ())]
    let first := "\x7b\x7b=| |=\x7d\x7d|n||=\x7b\x7b \x7d\x7d=|a"
    let second := "b\x7b\x7b%k\x7d\x7d\x7b\x7b#same\x7d\x7dc\x7b\x7b/same\x7d\x7d"
    ∃ whole, parse "page" (first ++ second) = .ok whole ∧ whole.pragmas = [[("k", "")]] ∧
      whole.renderToString call scopes =
        .ok "&lt;ab\x7b\x7b#same\x7d\x7dc\x7b\x7b/same\x7d\x7d" := by
  intro call scopes first second
  have parts (name source : String) (pragmas : List Pragma) (text : String)
      (shown : (parse name source).toOption.map (fun template =>
        (template.pragmas, template.renderToString call scopes)) = some (pragmas, .ok text)) :
      ∃ template, parse name source = .ok template ∧ template.pragmas = pragmas ∧
        template.renderToString call scopes = .ok text := by
    cases parsed : parse name source with
    | error fault =>
        rw [parsed] at shown
        cases shown
    | ok template =>
        rw [parsed] at shown
        rcases Prod.mk.inj (Option.some.inj shown) with ⟨pragmas, text⟩
        exact ⟨template, rfl, pragmas, text⟩
  rcases parts "one" first [] "&lt;a" (by decide +kernel) with ⟨one, parsed, pragmas, text⟩
  rcases parts "other" second [[("k", "")]] "b\x7b\x7b#same\x7d\x7dc\x7b\x7b/same\x7d\x7d"
    (by decide +kernel) with ⟨other, more, pragmas', text'⟩
  rcases parse_append parsed more (by decide +kernel) (by decide) "page" with
    ⟨whole, together, both, renders⟩
  rcases renders call scopes with ⟨_, _, writes, writesMore, joined⟩
  cases writes.symm.trans text
  cases writesMore.symm.trans text'
  refine ⟨whole, together, ?_, joined⟩
  rw [both, pragmas, pragmas']
  rfl

end Template

end Mustache
