import Mustache.Proofs.Scopes
import Mustache.Rendering

namespace Mustache

/-! Rendering computes the meaning of a template. The walk over the tree keeps two
things: the chain of scopes agrees with the flat bindings of the meaning, and
each step adds its text to the output and changes nothing else that is seen
there. -/

variable {State Lambda : Type}

/-! ## Output -/

namespace Output

theorem text_appendRaw (output : Output) (text : String) :
    (output.appendRaw text).text = output.text ++ text := by
  unfold appendRaw
  split
  · next empty =>
    rw [String.isEmpty_iff.mp empty, String.append_empty]
  · exact Array.foldl_push ..

theorem encoding_appendRaw (output : Output) (text : String) :
    (output.appendRaw text).encoding = output.encoding := by
  unfold appendRaw
  split <;> rfl

/-- Empty text adds no fragment, which is the same to an encoding that leaves the
empty text empty. -/
theorem text_append (output : Output) (text : String) (kept : output.encoding "" = "") :
    (output.append text).text = output.text ++ output.encoding text := by
  unfold append
  split
  · next empty =>
    rw [String.isEmpty_iff.mp empty, kept, String.append_empty]
  · exact Array.foldl_push ..

theorem encoding_append (output : Output) (text : String) :
    (output.append text).encoding = output.encoding := by
  unfold append
  split <;> rfl

end Output

/-! ## What a step writes -/

namespace Rendering

/-- The step ends well and adds a text to an output for HTML. -/
def Writes (step : Rendering State Unit) (text : String) : Prop :=
  ∀ progress : Progress State, progress.output.encoding = Encoding.html →
    ∃ after : Progress State, step progress = .ok () after ∧
      after.output.encoding = Encoding.html ∧
      after.output.text = progress.output.text ++ text

/-- A step that leaves the output alone writes nothing. -/
theorem writes_of_output_eq {step : Rendering State Unit}
    (keeps : ∀ progress, ∃ after, step progress = .ok () after ∧
      after.output = progress.output) : Writes step "" := by
  intro progress encoded
  rcases keeps progress with ⟨after, steps, same⟩
  refine ⟨after, steps, ?_, ?_⟩
  · rw [same]
    exact encoded
  · rw [same, String.append_empty]

theorem writes_pure : Writes (pure () : Rendering State Unit) "" := by
  apply writes_of_output_eq
  intro progress
  exact ⟨progress, rfl, rfl⟩

theorem Writes.andThen {first second : Rendering State Unit} {text rest : String}
    (writesFirst : Writes first text) (writesSecond : Writes second rest) :
    Writes (first >>= fun _ => second) (text ++ rest) := by
  intro progress encoded
  rcases writesFirst progress encoded with ⟨between, firstSteps, encodedBetween, textBetween⟩
  rcases writesSecond between encodedBetween with ⟨after, secondSteps, encodedAfter, textAfter⟩
  refine ⟨after, ?_, encodedAfter, ?_⟩
  · change EStateM.bind first (fun _ => second) progress = _
    rw [EStateM.bind, firstSteps]
    exact secondSteps
  · rw [textAfter, textBetween, String.append_assoc]

/-- A step that writes nothing can stand before any other. -/
theorem Writes.after {first second : Rendering State Unit} {text : String}
    (writesSecond : Writes second text) (writesFirst : Writes first "") :
    Writes (first >>= fun _ => second) text := by
  have together := writesFirst.andThen writesSecond
  rwa [String.empty_append] at together

theorem writes_writeRaw (text : String) : Writes (writeRaw text : Rendering State Unit) text := by
  intro progress encoded
  refine ⟨{ progress with output := progress.output.appendRaw text }, rfl, ?_, ?_⟩
  · exact (progress.output.encoding_appendRaw text).trans encoded
  · exact progress.output.text_appendRaw text

theorem writes_write (text : String) :
    Writes (write text : Rendering State Unit) (Encoding.html text) := by
  intro progress encoded
  refine ⟨{ progress with output := progress.output.append text }, rfl, ?_, ?_⟩
  · exact (progress.output.encoding_append text).trans encoded
  · have kept : progress.output.encoding "" = "" := by
      rw [encoded]
      rfl
    have written := progress.output.text_append text kept
    rwa [encoded] at written

theorem writes_consult : Writes (consult (Host.permissive : Host Unit Lambda)) "" := by
  apply writes_of_output_eq
  intro progress
  exact ⟨_, rfl, rfl⟩

theorem writes_inspect (template : Template) :
    Writes (inspect (Host.permissive : Host Unit Lambda) template) "" := by
  apply writes_of_output_eq
  intro progress
  exact ⟨_, rfl, rfl⟩

theorem writes_forEach {α : Type} {step : α → Rendering State Unit} {text : α → String}
    (items : List α) (writes : ∀ item, item ∈ items → Writes (step item) (text item)) :
    Writes (forEach step items) (String.join (items.map text)) := by
  induction items with
  | nil => exact writes_pure
  | cons item rest induction =>
      rw [List.map_cons, String.join_cons]
      apply Writes.andThen
      · exact writes item List.mem_cons_self
      · apply induction
        intro other member
        exact writes other (List.mem_cons_of_mem item member)

end Rendering

open Rendering

/-! ## The walk -/

/-- What a template that is rendered alone takes place in. -/
def Surroundings.alone (call : Lambda → String → Scopes Lambda → String) :
    Surroundings Unit Lambda :=
  ⟨.permissive, .empty, call, Template.standardExtension, Template.standardDepth⟩

/-- The empty store has no template to include, so an inclusion writes nothing. -/
theorem Template.writes_renderInclusion (call : Lambda → String → Scopes Lambda → String)
    (depth : Nat) (includer name : String) (scopes : Scopes Lambda) :
    Writes (renderInclusion (.alone call) (depth + 1) includer name scopes) "" := by
  apply writes_of_output_eq
  intro progress
  exact ⟨_, rfl, rfl⟩

section Walk

variable {surroundings : Surroundings Unit Lambda}
  {including : String → Scopes Lambda → Rendering Unit Unit}
  {scopes : Scopes Lambda} {bindings : Bindings Lambda}

theorem Surroundings.textOf_of_agrees (agrees : scopes.Agrees bindings) (free : bindings.Free)
    (name : String) :
    surroundings.textOf (scopes.lookup name) scopes = (bindings.valueOf name).output := by
  have holds := free.valueOf name
  rw [agrees.lookup name]
  cases value : bindings.valueOf name with
  | lambda lambda =>
      rw [value] at holds
      cases holds
  | _ => rfl

theorem Value.rounds_integer (number : Int64) :
    (Value.integer number).rounds bindings =
      if (Value.integer number : Value Lambda).isTruthy then [bindings] else [] := by
  by_cases zero : number = 0 <;> simp [Value.rounds, Value.isTruthy, zero]

theorem Value.rounds_float (number : Float) :
    (Value.float number).rounds bindings =
      if (Value.float number : Value Lambda).isTruthy then [bindings] else [] := by
  cases zero : number == 0 <;> simp [Value.rounds, Value.isTruthy, bne, zero]

theorem Value.rounds_text (written : String) :
    (Value.text written).rounds bindings =
      if (Value.text written : Value Lambda).isTruthy then [bindings] else [] := by
  by_cases empty : written = "" <;> simp [Value.rounds, Value.isTruthy, empty]

/-- The values of an inverted section that writes its body are those its meaning
names. -/
theorem Node.writes_inverted (permissive : surroundings.host = Host.permissive)
    (agrees : scopes.Agrees bindings) (name body closeBody : String)
    (markers closeMarkers : Markers) {children : List Node}
    (inside : Writes (Node.renderForest surroundings including scopes children)
      (Node.forestMeaning bindings children)) :
    Writes (Node.render surroundings including scopes
        (.group .inverted name body markers children closeBody closeMarkers))
      ((Node.group .inverted name body markers children closeBody closeMarkers).meaning
        bindings) := by
  rw [Node.render, Node.meaning, permissive, agrees.lookup name]
  apply Writes.after _ writes_consult
  cases bindings.valueOf name with
  | absent => exact inside
  | bool truth =>
      cases truth with
      | false => exact inside
      | true => exact writes_pure
  | map entries =>
      cases entries with
      | nil => exact inside
      | cons entry rest => exact writes_pure
  | list items =>
      cases items with
      | nil => exact inside
      | cons item rest => exact writes_pure
  | integer number => exact writes_pure
  | float number => exact writes_pure
  | text written => exact writes_pure
  | lambda lambda => exact writes_pure

/-- A section writes its body once for each round of its value. -/
theorem Node.writes_section (permissive : surroundings.host = Host.permissive)
    (agrees : scopes.Agrees bindings) (free : bindings.Free) (name body closeBody : String)
    (markers closeMarkers : Markers) {children : List Node}
    (inside : ∀ (inner : Scopes Lambda) (under : Bindings Lambda), inner.Agrees under →
      under.Free → Writes (Node.renderForest surroundings including inner children)
        (Node.forestMeaning under children)) :
    Writes (Node.render surroundings including scopes
        (.group .section name body markers children closeBody closeMarkers))
      ((Node.group .section name body markers children closeBody closeMarkers).meaning
        bindings) := by
  have once : ∀ (inner : Scopes Lambda) (under : Bindings Lambda), inner.Agrees under →
      under.Free → Writes (Node.renderForest surroundings including inner children)
        (String.join ([under].map fun under => Node.forestMeaning under children)) := by
    intro inner under agreesInner freeUnder
    rw [List.map_singleton, String.join_cons, String.join_nil, String.append_empty]
    exact inside inner under agreesInner freeUnder
  have onceIf : ∀ truth : Bool,
      Writes (if truth then Node.renderForest surroundings including scopes.child children
          else pure ())
        (String.join ((if truth then [bindings] else []).map fun under =>
          Node.forestMeaning under children)) := by
    intro truth
    cases truth with
    | false => exact writes_pure
    | true => exact once scopes.child bindings agrees.child free
  have holds := free.valueOf name
  rw [Node.render, Node.meaning, permissive, agrees.lookup name]
  apply Writes.after _ writes_consult
  cases value : bindings.valueOf name with
  | absent => exact writes_pure
  | bool truth => exact onceIf truth
  | integer number =>
      rw [Value.rounds_integer]
      exact onceIf (Value.integer number : Value Lambda).isTruthy
  | float number =>
      rw [Value.rounds_float]
      exact onceIf (Value.float number : Value Lambda).isTruthy
  | text written =>
      rw [Value.rounds_text]
      exact onceIf (Value.text written : Value Lambda).isTruthy
  | map entries =>
      rw [value] at holds
      cases entries with
      | nil => exact writes_pure
      | cons entry rest =>
          exact once _ _ (agrees.bind _)
            (free.override (Bindings.free_of_entriesLambdaFree holds))
  | list items =>
      rw [value] at holds
      rw [Value.rounds, List.map_map]
      apply writes_forEach
      intro item member
      have holdsItem := Value.lambdaFree_of_mem holds member
      apply inside
      · exact agrees.bindElement item
      · exact free.withElement holdsItem
  | lambda lambda =>
      rw [value] at holds
      cases holds

/-! An inclusion must write nothing; then what the walk writes is the meaning. -/

mutual
theorem Node.writes_meaning (permissive : surroundings.host = Host.permissive)
    (silent : ∀ name scopes, Writes (including name scopes) "") (node : Node)
    (scopes : Scopes Lambda) (bindings : Bindings Lambda) (agrees : scopes.Agrees bindings)
    (free : bindings.Free) :
    Writes (node.render surroundings including scopes) (node.meaning bindings) := by
  cases node with
  | plain text markers =>
      rw [Node.render, Node.meaning]
      exact writes_writeRaw text
  | leaf kind name body markers =>
      cases kind with
      | name =>
          rw [Node.render, Node.meaning, Surroundings.textOf_of_agrees agrees free]
          exact writes_write _
      | unescaped =>
          rw [Node.render, Node.meaning, Surroundings.textOf_of_agrees agrees free]
          exact writes_writeRaw _
      | triple =>
          rw [Node.render, Node.meaning, Surroundings.textOf_of_agrees agrees free]
          exact writes_writeRaw _
      | comment =>
          rw [Node.render, Node.meaning]
          exact writes_pure
      | pragma =>
          rw [Node.render, Node.meaning]
          exact writes_pure
      | redelimit =>
          rw [Node.render, Node.meaning]
          exact writes_pure
      | inclusion =>
          rw [Node.render, Node.meaning, permissive]
          exact Writes.after (silent name scopes) writes_consult
  | group kind name body markers children closeBody closeMarkers =>
      cases kind with
      | inverted =>
          apply Node.writes_inverted permissive agrees
          exact Node.forest_writes_meaning permissive silent children scopes bindings agrees free
      | «section» =>
          apply Node.writes_section permissive agrees free
          intro inner under agreesInner freeUnder
          exact Node.forest_writes_meaning permissive silent children inner under agreesInner
            freeUnder

theorem Node.forest_writes_meaning (permissive : surroundings.host = Host.permissive)
    (silent : ∀ name scopes, Writes (including name scopes) "") (nodes : List Node)
    (scopes : Scopes Lambda) (bindings : Bindings Lambda) (agrees : scopes.Agrees bindings)
    (free : bindings.Free) :
    Writes (Node.renderForest surroundings including scopes nodes)
      (Node.forestMeaning bindings nodes) := by
  cases nodes with
  | nil =>
      rw [Node.renderForest, Node.forestMeaning]
      exact writes_pure
  | cons node rest =>
      rw [Node.renderForest, Node.forestMeaning]
      apply Writes.andThen
      · exact Node.writes_meaning permissive silent node scopes bindings agrees free
      · exact Node.forest_writes_meaning permissive silent rest scopes bindings agrees free
end

end Walk

namespace Template

/-- A template rendered alone against data without lambdas gives its meaning under
the data, and it never fails. -/
theorem renderToString_eq_meaning (call : Lambda → String → Scopes Lambda → String)
    (template : Template) {data : Bindings Lambda}
    (free : Value.entriesLambdaFree data = true) :
    template.renderToString call (.root data) = .ok (Node.forestMeaning data template.forest) := by
  have silent := writes_renderInclusion call 31 template.name
  have permissive : (Surroundings.alone call).host = Host.permissive := rfl
  have walks := Node.forest_writes_meaning permissive silent template.forest (.root data) data
    (Scopes.agrees_root data) (Bindings.free_of_entriesLambdaFree free)
  rcases (walks.after (writes_inspect template)) ⟨.empty .html, (), #[]⟩ rfl with
    ⟨after, steps, -, written⟩
  have ran : (template.renderAlone call (.root data)).run ⟨.empty .html, (), #[]⟩ =
      .ok () after := steps
  rw [renderToString, ran]
  change Except.ok after.output.text = _
  rw [written]
  exact congrArg Except.ok String.empty_append

/-- The second element binds the name to nothing, which hides the name around it;
the dot is the element that is no map. -/
theorem renderToString_eq_meaning_hidden_name :
    ∃ template,
      parse "page" "\x7b\x7b=| |=\x7d\x7d|#s|[|n||&.||^n|-|/n|]|/s||>p||&o.m|" = .ok template ∧
      template.renderToString (fun (_ : Unit) text _ => text)
        (.root [("n", .text "<"), ("o", .map [("m", .text ">")]),
          ("s", .list [.text "a&", .map [("n", .absent)]])]) = .ok "[&lt;a&][-]>" := by
  have means :
      (parse "page" "\x7b\x7b=| |=\x7d\x7d|#s|[|n||&.||^n|-|/n|]|/s||>p||&o.m|").toOption.map
        (fun template => Node.forestMeaning
          ([("n", .text "<"), ("o", .map [("m", .text ">")]),
            ("s", .list [.text "a&", .map [("n", .absent)]])] : Bindings Unit) template.forest) =
          some "[&lt;a&][-]>" := by
    decide +kernel
  cases parsed : parse "page" "\x7b\x7b=| |=\x7d\x7d|#s|[|n||&.||^n|-|/n|]|/s||>p||&o.m|" with
  | error fault =>
      rw [parsed] at means
      cases means
  | ok template =>
      rw [parsed] at means
      refine ⟨template, rfl, ?_⟩
      rw [renderToString_eq_meaning _ template (by decide)]
      exact congrArg Except.ok (Option.some.inj means)

end Template

end Mustache
