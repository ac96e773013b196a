import Mathlib.Data.List.Forall2
import Mustache.Proofs.Engine
import Mustache.Proofs.Likeness
import Mustache.Proofs.Scopes

namespace Mustache

/-! The order in which the keys of a map are written never shows. Two values that differ
in nothing else have the same keys with values that are such a pair again, so every name
means such a pair in the scopes of two renderings, and the renderings are the same. -/

open Rendering

variable {State Lambda : Type}

/-! ## Values -/

theorem Entries.find?_perm {α : Type} {entries moved : Entries α} (moves : entries.Perm moved)
    (once : entries.names.Nodup) (name : String) : entries.find? name = moved.find? name := by
  induction moves with
  | nil => rfl
  | cons entry _ induction =>
      rw [find?, find?, induction (List.nodup_cons.mp once).2]
  | swap first second rest =>
      have apart : second.1 ≠ first.1 := fun same =>
        (List.nodup_cons.mp once).1 (by simp [same])
      simp only [find?]
      by_cases one : second.1 = name
      · have other : first.1 ≠ name := fun same => apart (one.trans same.symm)
        rw [if_pos one, if_neg other, if_pos one]
      · rw [if_neg one, if_neg one]
  | trans moves _ first second =>
      exact (first once).trans (second ((moves.map Prod.fst).nodup_iff.mp once))

namespace Value

/-- Values that differ at most in the order of the keys of maps. -/
inductive Reordered : Value Lambda → Value Lambda → Prop where
  | same (value : Value Lambda) : Reordered value value
  /-- The entries are moved, and then each one is written in another way. -/
  | map {entries moved others : List (String × Value Lambda)}
      (once : (Entries.names entries).Nodup) (moves : entries.Perm moved)
      (names : Entries.names moved = Entries.names others)
      (pairs : List.Forall₂ (fun entry other => Reordered entry.2 other.2) moved others) :
      Reordered (.map entries) (.map others)
  | list {items others : List (Value Lambda)} (pairs : List.Forall₂ Reordered items others) :
      Reordered (.list items) (.list others)

theorem rel_find?_of_pairs {moved others : Bindings Lambda} (names : moved.names = others.names)
    (pairs : List.Forall₂ (fun entry other => Reordered entry.2 other.2) moved others)
    (key : String) : Option.Rel Reordered (moved.find? key) (others.find? key) := by
  induction pairs with
  | nil => exact .none
  | @cons entry other rest behind pair _ induction =>
      rcases List.cons.inj names with ⟨same, names⟩
      rw [Entries.find?, Entries.find?, same]
      split
      · exact .some pair
      · exact induction names

/-- Two maps have the same keys with values that differ in the order of keys again. -/
theorem Reordered.entries {entries : Bindings Lambda} {value : Value Lambda}
    (reordered : Reordered (.map entries) value) :
    ∃ others : Bindings Lambda, value = .map others ∧ entries.isEmpty = others.isEmpty ∧
      ∀ key, Option.Rel Reordered (entries.find? key) (others.find? key) := by
  cases reordered with
  | same =>
      refine ⟨entries, rfl, rfl, fun key => ?_⟩
      cases entries.find? key with
      | none => exact .none
      | some value => exact .some (.same value)
  | @map _ moved others once moves names pairs =>
      refine ⟨others, rfl, ?_, fun key => ?_⟩
      · rw [moves.isEmpty_eq]
        cases pairs with
        | nil => rfl
        | cons => rfl
      · rw [Entries.find?_perm moves once]
        exact rel_find?_of_pairs names pairs key

theorem Reordered.items {items : List (Value Lambda)} {value : Value Lambda}
    (reordered : Reordered (.list items) value) :
    ∃ others, value = .list others ∧ List.Forall₂ Reordered items others := by
  cases reordered with
  | same => exact ⟨items, rfl, List.forall₂_same.mpr fun item _ => .same item⟩
  | list pairs => exact ⟨_, rfl, pairs⟩

/-! ## Lambdas -/

/-- The lambda stands at some depth in the value. -/
inductive Contains (lambda : Lambda) : Value Lambda → Prop where
  | here : Contains lambda (.lambda lambda)
  | inMap {entries : List (String × Value Lambda)} {entry : String × Value Lambda}
      (member : entry ∈ entries) (inside : Contains lambda entry.2) :
      Contains lambda (.map entries)
  | inList {items : List (Value Lambda)} {item : Value Lambda} (member : item ∈ items)
      (inside : Contains lambda item) : Contains lambda (.list items)

theorem Contains.not_free {lambda : Lambda} {value : Value Lambda}
    (contains : value.Contains lambda) : value.lambdaFree ≠ true := by
  induction contains with
  | here => exact Bool.false_ne_true
  | inMap member _ induction => exact fun free => induction (lambdaFree_of_mem_entries free member)
  | inList member _ induction => exact fun free => induction (lambdaFree_of_mem free member)

end Value

/-- Values that differ at most in the order of keys and hold only some of the lambdas. -/
structure Value.Twins (holds : Lambda → Prop) (one other : Value Lambda) : Prop where
  reordered : one.Reordered other
  lambdas : ∀ lambda, one.Contains lambda → holds lambda

def Bindings.Twins (holds : Lambda → Prop) (one other : Bindings Lambda) : Prop :=
  ∀ key, Option.Rel (Value.Twins holds) (one.find? key) (other.find? key)

namespace Value.Twins

variable {holds : Lambda → Prop} {one other : Value Lambda}

theorem entries {entries : Bindings Lambda} {value : Value Lambda}
    (twins : Twins holds (.map entries) value) :
    ∃ others : Bindings Lambda, value = .map others ∧ entries.isEmpty = others.isEmpty ∧
      Bindings.Twins holds entries others := by
  rcases twins.reordered.entries with ⟨others, rfl, empty, pairs⟩
  refine ⟨others, rfl, empty, fun key => ?_⟩
  have pair := pairs key
  generalize others.find? key = mate at pair ⊢
  cases found : entries.find? key with
  | none =>
      rw [found] at pair
      cases pair
      exact .none
  | some inside =>
      rw [found] at pair
      cases pair with
      | some reordered =>
          refine .some ⟨reordered, fun lambda contains => twins.lambdas lambda ?_⟩
          exact .inMap (Entries.mem_of_find? found) contains

theorem items {items : List (Value Lambda)} {value : Value Lambda}
    (twins : Twins holds (.list items) value) :
    ∃ others, value = .list others ∧ List.Forall₂ (Twins holds) items others := by
  rcases twins.reordered.items with ⟨others, rfl, pairs⟩
  refine ⟨others, rfl, ?_⟩
  have lambdas : ∀ item ∈ items, ∀ lambda, item.Contains lambda → holds lambda :=
    fun item member lambda contains => twins.lambdas lambda (.inList member contains)
  clear twins
  induction pairs with
  | nil => exact .nil
  | cons pair _ induction =>
      rcases List.forall_mem_cons.mp lambdas with ⟨first, rest⟩
      exact .cons ⟨pair, first⟩ (induction rest)

theorem absent : Twins holds (.absent : Value Lambda) .absent :=
  ⟨.same _, fun _ contains => nomatch contains⟩

theorem isFalsy (twins : Twins holds one other) : one.isFalsy = other.isFalsy := by
  cases twins.reordered with
  | same => rfl
  | map once moves names pairs =>
      rcases twins.entries with ⟨others, same, empty, -⟩
      cases same
      exact empty
  | list pairs =>
      cases pairs with
      | nil => rfl
      | cons => rfl

theorem key? (twins : Twins holds one other) (key : String) :
    Option.Rel (Twins holds) (one.key? key) (other.key? key) := by
  cases one with
  | map entries =>
      rcases twins.entries with ⟨others, rfl, -, pairs⟩
      exact pairs key
  | list items =>
      rcases twins.items with ⟨others, rfl, -⟩
      exact .none
  | _ =>
      cases twins.reordered
      exact .none

/-- Names that are not bound mean what they mean around. -/
theorem getD {found mate : Option (Value Lambda)} (pair : Option.Rel (Twins holds) found mate)
    (around : Twins holds one other) : Twins holds (found.getD one) (mate.getD other) := by
  cases pair with
  | none => exact around
  | some twins => exact twins

theorem alone (twins : Twins holds one other) :
    Bindings.Twins holds [(".", one)] [(".", other)] := by
  intro key
  by_cases dot : "." = key
  · simpa [Entries.find?, dot] using twins
  · simp [Entries.find?, dot]

theorem locals (twins : Twins holds one other) : Bindings.Twins holds one.locals other.locals := by
  cases one with
  | map entries =>
      rcases twins.entries with ⟨others, rfl, -, pairs⟩
      exact pairs
  | list items =>
      rcases twins.items with ⟨others, rfl, -⟩
      exact twins.alone
  | _ =>
      cases twins.reordered
      exact twins.alone

theorem descend (keys : List String) (twins : Twins holds one other) :
    Twins holds (Scopes.descend one keys) (Scopes.descend other keys) := by
  induction keys generalizing one other with
  | nil => exact twins
  | cons key rest induction =>
      have pair := twins.key? key
      rw [Scopes.descend, Scopes.descend]
      generalize one.key? key = inside at pair ⊢
      generalize other.key? key = mate at pair ⊢
      cases pair with
      | none => exact absent
      | some twins => exact induction twins

end Value.Twins

/-! ## Scopes -/

namespace Scopes

/-- Scopes of one file in which every name means values that differ at most in the order
of keys. -/
structure Twins (holds : Lambda → Prop) (one other : Scopes Lambda) : Prop where
  file : one.currentFile = other.currentFile
  names : ∀ key, Value.Twins holds (one.resolve key) (other.resolve key)

variable {holds : Lambda → Prop} {one other : Scopes Lambda}

theorem Twins.enter (twins : Twins holds one other) {locals others : Bindings Lambda}
    (pairs : Bindings.Twins holds locals others) (file : Option Path) :
    Twins holds (one.enter ⟨locals, file⟩) (other.enter ⟨others, file⟩) where
  file := by
    have around : fileIn one.all = fileIn other.all := twins.file
    simp only [currentFile, Scopes.enter, all, fileIn] at around ⊢
    rw [around]
  names key := by
    rw [resolve_enter, resolve_enter]
    exact .getD (pairs key) (twins.names key)

theorem Twins.lookup (twins : Twins holds one other) (name : String) :
    Value.Twins holds (one.lookup name) (other.lookup name) := by
  unfold Scopes.lookup
  split
  · exact twins.names "."
  · split
    · exact .absent
    · exact (twins.names _).descend _

theorem Twins.bindElement (twins : Twins holds one other) {item mate : Value Lambda}
    (pair : item.Twins holds mate) :
    Twins holds (one.bindElement item) (other.bindElement mate) := by
  rw [bindElement_eq, bindElement_eq]
  exact twins.enter pair.locals none

end Scopes

theorem Bindings.twins_nil {holds : Lambda → Prop} :
    Bindings.Twins holds ([] : Bindings Lambda) [] :=
  fun _ => .none

/-! ## Templates -/

/-- The lambda does not look at the scopes that it is given. -/
def Steady (call : Lambda → String → Scopes Lambda → String) (lambda : Lambda) : Prop :=
  ∀ text one other, call lambda text one = call lambda text other

section Template

variable {surroundings : Surroundings State Lambda}
  {including including' : String → Scopes Lambda → Rendering State Unit}

theorem Surroundings.textOf_eq {value mate : Value Lambda}
    (twins : value.Twins (Steady surroundings.call) mate) (one other : Scopes Lambda) :
    surroundings.textOf value one = surroundings.textOf mate other := by
  cases value with
  | lambda lambda =>
      cases twins.reordered
      exact twins.lambdas lambda .here "" one other
  | _ => cases twins.reordered <;> rfl

theorem Rendering.forEach_congr {α β : Type} {related : α → β → Prop}
    {first : α → Rendering State Unit} {second : β → Rendering State Unit} {items : List α}
    {others : List β} (pairs : List.Forall₂ related items others)
    (each : ∀ item other, related item other → first item = second other) :
    forEach first items = forEach second others := by
  induction pairs with
  | nil => rfl
  | cons pair _ induction => rw [forEach, forEach, each _ _ pair, induction]

mutual
theorem Node.render_twins
    (includes : ∀ name one other, Scopes.Twins (Steady surroundings.call) one other →
      including name one = including' name other)
    (node : Node) {one other : Scopes Lambda}
    (twins : one.Twins (Steady surroundings.call) other) :
    node.render surroundings including one = node.render surroundings including' other := by
  cases node with
  | plain text markers => rw [Node.render, Node.render]
  | leaf kind name body markers =>
      have text := Surroundings.textOf_eq (twins.lookup name) one other
      cases kind with
      | inclusion => rw [Node.render, Node.render, includes name one other twins]
      | name | unescaped | triple => rw [Node.render, Node.render, text]
      | comment | pragma | redelimit => rw [Node.render, Node.render]
  | group kind name body markers children closeBody closeMarkers =>
      have inside {inner under : Scopes Lambda} (twins : inner.Twins _ under) :=
        Node.renderForest_twins includes children twins
      have pair := twins.lookup name
      cases kind with
      | inverted => rw [Node.render, Node.render, pair.isFalsy, inside twins]
      | «section» =>
          rw [Node.render, Node.render]
          congr 1
          funext _
          generalize one.lookup name = value at pair ⊢
          generalize other.lookup name = mate at pair ⊢
          cases value with
          | map entries =>
              rcases pair.entries with ⟨others, rfl, empty, pairs⟩
              dsimp only
              rw [empty, Scopes.bind, inside (twins.enter pairs none)]
              rfl
          | list items =>
              rcases pair.items with ⟨others, rfl, pairs⟩
              exact forEach_congr pairs fun item mate pair => inside (twins.bindElement pair)
          | lambda lambda =>
              cases pair.reordered
              exact congrArg writeRaw (pair.lambdas lambda .here _ one other)
          | absent | bool _ | integer _ | float _ | text _ =>
              cases pair.reordered
              dsimp only
              rw [Scopes.child, inside (twins.enter Bindings.twins_nil none)]
              rfl

theorem Node.renderForest_twins
    (includes : ∀ name one other, Scopes.Twins (Steady surroundings.call) one other →
      including name one = including' name other)
    (nodes : List Node) {one other : Scopes Lambda}
    (twins : one.Twins (Steady surroundings.call) other) :
    Node.renderForest surroundings including one nodes =
      Node.renderForest surroundings including' other nodes := by
  cases nodes with
  | nil => rw [Node.renderForest, Node.renderForest]
  | cons node rest =>
      rw [Node.renderForest, Node.renderForest, Node.render_twins includes node twins,
        Node.renderForest_twins includes rest twins]
end

theorem Template.renderInclusion_twins (depth : Nat) (includer name : String)
    (one other : Scopes Lambda) (twins : one.Twins (Steady surroundings.call) other) :
    renderInclusion surroundings depth includer name one =
      renderInclusion surroundings depth includer name other := by
  induction depth generalizing includer name one other with
  | zero => rw [renderInclusion, renderInclusion, twins.file]
  | succ depth induction =>
      have body (template : Template) (path : Path) :=
        Node.renderForest_twins (induction template.name) template.forest
          (twins.enter Bindings.twins_nil (some path))
      simp only [renderInclusion, twins.file, Scopes.enterFile, body]

variable (surroundings) in
theorem Template.render_twins (template : Template) {one other : Scopes Lambda}
    (twins : one.Twins (Steady surroundings.call) other) :
    template.render surroundings one = template.render surroundings other := by
  rw [render, render, Node.renderForest_twins
    (renderInclusion_twins surroundings.depthLimit template.name) template.forest twins]

end Template

/-! ## Engines -/

theorem Scopes.twins_extend {holds : Lambda → Prop} {data other values : Bindings Lambda}
    (pairs : Bindings.Twins holds data other)
    (lambdas : ∀ lambda, (Value.map values).Contains lambda → holds lambda) (file : Option Path) :
    Twins holds (extend ⟨⟨data, file⟩, []⟩ values) (extend ⟨⟨other, file⟩, []⟩ values) where
  file := rfl
  names key := by
    have resolved (locals : Bindings Lambda) :
        (extend ⟨⟨locals, file⟩, []⟩ values).resolve key =
          (locals.find? key).getD ((values.find? key).getD .absent) := by
      rw [← Option.getD_or, ← Entries.find?_extend]
      exact agrees_root (locals.extend values) key
    rw [resolved, resolved]
    refine .getD (pairs key) ?_
    cases found : values.find? key with
    | none => exact .absent
    | some value =>
        refine ⟨.same value, fun lambda contains => lambdas lambda ?_⟩
        exact .inMap (Entries.mem_of_find? found) contains

/-- What the journal tells, without the names that the host was shown. -/
def Event.nameless : Event → Event
  | .valued _ file written => .valued [] file written
  | other => other

/-- The same progress but for the names that the host was shown. -/
structure Progress.SameUnnamed (one other : Progress State) : Prop where
  output : one.output = other.output
  host : one.host = other.host
  journal : one.journal.map Event.nameless = other.journal.map Event.nameless

theorem Progress.SameUnnamed.after {one other : Progress State} (same : SameUnnamed one other)
    (acts : List (Walk.Act Lambda)) (written : List String) (final : State) :
    SameUnnamed (one.after acts written final) (other.after acts written final) where
  output := by rw [Progress.after, Progress.after, same.output]
  host := rfl
  journal := by
    rw [Progress.after, Progress.after, Array.map_append, Array.map_append, same.journal]

/-- Neither the names that the host binds nor its lambdas depend on the scopes. -/
structure Host.Blind (host : Host State Lambda) (call : Lambda → String → Scopes Lambda → String) :
    Prop where
  values : ∀ one other output state,
    host.values one output state = host.values other output state
  steady : ∀ {scopes output state bindings after},
    host.values scopes output state = (.ok bindings, after) →
      ∀ lambda, (Value.map bindings).Contains lambda → Steady call lambda

namespace Engine

/-- Two runs with the same result and the same progress but for the names that the host
was shown. -/
def SameRun (one other : Except Error String × Progress State) : Prop :=
  one.1 = other.1 ∧ Progress.SameUnnamed one.2 other.2

variable {host : Host State Lambda} {call : Lambda → String → Scopes Lambda → String}
  {data other : Bindings Lambda}

theorem sameRun_of_ends {engine : Engine} {first second : Rendering State Unit} {state : State}
    (ends : (Likeness.throughout Progress.SameUnnamed).Ends
      (first ⟨.empty engine.encoding, state, #[]⟩) (second ⟨.empty engine.encoding, state, #[]⟩)) :
    SameRun (engine.run first state) (engine.run second state) := by
  unfold run EStateM.run
  revert ends
  generalize first _ = reached
  generalize second _ = met
  intro ends
  cases ends with
  | ok same => exact ⟨congrArg (Except.ok ∘ Output.text) same.output, same⟩
  | error same => exact ⟨rfl, same⟩

theorem renderIn_twins (engine : Engine) (blind : host.Blind call)
    (pairs : Bindings.Twins (Steady call) data other) (template : Template) (file : Option Path)
    (progress : Progress State) :
    (Likeness.throughout Progress.SameUnnamed).Ends
      (engine.renderIn host call template ⟨⟨data, file⟩, []⟩ progress)
      (engine.renderIn host call template ⟨⟨other, file⟩, []⟩ progress) := by
  rw [renderIn_eq, renderIn_eq, blind.values ⟨⟨other, file⟩, []⟩ ⟨⟨data, file⟩, []⟩]
  have shown (state : State) : Progress.SameUnnamed (valued ⟨⟨data, file⟩, []⟩ progress state)
      (valued ⟨⟨other, file⟩, []⟩ progress state) := by
    refine ⟨rfl, rfl, ?_⟩
    rw [valued, valued, Array.map_push, Array.map_push]
    rfl
  rcases answer : host.values ⟨⟨data, file⟩, []⟩ progress.output progress.host with
    ⟨error | values, state⟩
  · exact .error (shown state)
  · have twins := Scopes.twins_extend pairs (blind.steady answer) file
    dsimp only
    rw [Template.render_twins (engine.surroundings host call) template twins]
    rcases template.render_told (engine.surroundings host call)
      (Scopes.extend ⟨⟨other, file⟩, []⟩ values) (shown state).output (shown state).host with
      ⟨acts, result, final, rendered, rendered'⟩
    rw [rendered, rendered']
    have same := (shown state).after acts (Walk.fragments acts) final
    cases result with
    | ok => exact .ok same
    | error error => exact .error same

/-- The order of the keys in the data never shows: neither in what is written, nor in how
the rendering ends, nor in what is loaded and what the host is asked. -/
theorem run_of_reordered (engine : Engine) (blind : host.Blind call)
    (reordered : Value.Reordered (.map data) (.map other))
    (free : Value.lambdaFree (.map data) = true) (state : State) :
    (∀ template,
      SameRun (engine.run (engine.render host call template data) state)
        (engine.run (engine.render host call template other) state)) ∧
    ∀ name,
      SameRun (engine.run (engine.renderPath host call name data) state)
        (engine.run (engine.renderPath host call name other) state) := by
  have twins : Value.Twins (Steady call) (.map data) (.map other) :=
    ⟨reordered, fun _ contains => absurd free contains.not_free⟩
  rcases twins.entries with ⟨others, same, -, pairs⟩
  cases same
  constructor
  · intro template
    exact sameRun_of_ends (renderIn_twins engine blind pairs template none _)
  · intro name
    refine sameRun_of_ends ?_
    rw [renderPath_eq rfl, renderPath_eq rfl]
    have same (progress : Progress State) : Progress.SameUnnamed progress progress :=
      ⟨rfl, rfl, rfl⟩
    split
    · exact .error (same _)
    · split
      · exact .error (same _)
      · exact renderIn_twins engine blind pairs _ _ _

/-- The order differs outside of a list and inside of it, and the host binds a lambda. -/
theorem run_of_reordered_list :
    let call : Unit → String → Scopes Unit → String := fun _ text _ => text
    let host : Host Unit Unit :=
      ⟨fun _ _ state => (.ok [("same", .lambda ())], state), fun _ state => (.ok (), state),
        fun state => (true, state)⟩
    let data : Bindings Unit := [("title", .text "T"),
      ("rows", .list [.map [("x", .text "1"), ("y", .text "2")]])]
    let other : Bindings Unit := [("rows", .list [.map [("y", .text "2"), ("x", .text "1")]]),
      ("title", .text "T")]
    let engine : Engine := .ofStore .standard (.ofFiles
      [(⟨"page.mustache"⟩, "\x7b\x7b=| |=\x7d\x7d|#rows||>row||/rows|".toUTF8),
        (⟨"row.mustache"⟩, "\x7b\x7b=| |=\x7d\x7d|title||y||x||#same|s|/same|".toUTF8)])
    let one := engine.run (engine.renderPath host call "page" data) ()
    let two := engine.run (engine.renderPath host call "page" other) ()
    SameRun one two ∧ two.1 = .ok "T21|#same|s|/same|" := by
  intro call host data other engine one two
  have blind : host.Blind call := by
    refine ⟨fun _ _ _ _ => rfl, ?_⟩
    intro _ _ _ _ _ _ lambda _ text one other
    rfl
  have row : Value.Reordered (.map [("x", .text "1"), ("y", .text "2")])
      (.map [("y", .text "2"), ("x", .text "1")] : Value Unit) :=
    .map (by decide) (.swap _ _ _) rfl (.cons (.same _) (.cons (.same _) .nil))
  have reordered : Value.Reordered (.map data) (.map other) :=
    .map (by decide) (.swap _ _ _) rfl (.cons (.list (.cons row .nil)) (.cons (.same _) .nil))
  have runs := (run_of_reordered engine blind reordered rfl ()).2 "page"
  exact ⟨runs, by decide +kernel⟩

end Engine

end Mustache
