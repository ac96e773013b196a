import Mathlib.Data.List.Forall2
import Mustache.Proofs.Markup

namespace Mustache

/-! Two renderings side by side. A likeness says how their progress is related, and two
renderings are alike if they keep that relation and come to the same end. Each construct
of a template keeps a likeness that its single steps keep, so a whole template does. -/

open Rendering

variable {State Lambda : Type}

/-- The way in which a step ends. -/
def Rendering.outcome (step : Rendering State Unit) (progress : Progress State) :
    Except Error Unit :=
  match step progress with
  | .ok () _ => .ok ()
  | .error error _ => .error error

/-- How the progress of two renderings is related. -/
structure Likeness (State : Type) where
  /-- As long as both go on. -/
  ongoing : Progress State → Progress State → Prop
  /-- When both have failed. -/
  failed : Progress State → Progress State → Prop

namespace Likeness

/-- Both end well, or both fail with the same error. -/
inductive Ends (likeness : Likeness State) : EStateM.Result Error (Progress State) Unit →
    EStateM.Result Error (Progress State) Unit → Prop where
  | ok {one other : Progress State} (alike : likeness.ongoing one other) :
      Ends likeness (.ok () one) (.ok () other)
  | error {error : Error} {one other : Progress State} (alike : likeness.failed one other) :
      Ends likeness (.error error one) (.error error other)

def Alike (likeness : Likeness State) (first second : Rendering State Unit) : Prop :=
  ∀ one other, likeness.ongoing one other → likeness.Ends (first one) (second other)

/-- One relation, whether they go on or fail. -/
def throughout (related : Progress State → Progress State → Prop) : Likeness State :=
  ⟨related, related⟩

variable {likeness : Likeness State} {first second : Rendering State Unit}

theorem Alike.ok_or_error (alike : likeness.Alike first second) {one other : Progress State}
    (start : likeness.ongoing one other) :
    (∃ reached met, first one = .ok () reached ∧ second other = .ok () met ∧
      likeness.ongoing reached met) ∨
    ∃ error reached met, first one = .error error reached ∧ second other = .error error met ∧
      likeness.failed reached met := by
  have ends := alike one other start
  revert ends
  generalize first one = ended
  generalize second other = ended'
  intro ends
  cases ends with
  | ok alike => exact .inl ⟨_, _, rfl, rfl, alike⟩
  | error alike => exact .inr ⟨_, _, _, rfl, rfl, alike⟩

theorem Alike.outcome_and_reached {related : Progress State → Progress State → Prop}
    (alike : (throughout related).Alike first second) {one other : Progress State}
    (start : related one other) :
    first.outcome one = second.outcome other ∧
      related (first.reached one) (second.reached other) := by
  unfold Rendering.outcome Rendering.reached
  rcases alike.ok_or_error start with
    ⟨reached, met, steps, others, alike⟩ | ⟨error, reached, met, steps, others, alike⟩
  all_goals
    rw [steps, others]
    exact ⟨rfl, alike⟩

/-! ## Steps one after the other -/

theorem alike_pure : likeness.Alike (pure ()) (pure ()) := by
  intro one other alike
  exact .ok alike

theorem Alike.andThen {next last : Rendering State Unit} (start : likeness.Alike first second)
    (further : likeness.Alike next last) :
    likeness.Alike (first >>= fun _ => next) (second >>= fun _ => last) := by
  intro one other alike
  rcases start.ok_or_error alike with
    ⟨reached, met, steps, others, alike⟩ | ⟨error, reached, met, steps, others, alike⟩
  · rw [bind_of_ok steps, bind_of_ok others]
    exact further reached met alike
  · rw [bind_of_error steps, bind_of_error others]
    exact .error alike

/-- Steps that write to forks of two outputs. -/
theorem Alike.apart (alike : likeness.Alike first second) {one other : Progress State}
    (forks : likeness.ongoing { one with output := one.output.fork }
      { other with output := other.output.fork })
    (splices : ∀ inner met, likeness.ongoing inner met →
      likeness.ongoing { inner with output := one.output.splice inner.output }
        { met with output := other.output.splice met.output })
    (drops : ∀ inner met, likeness.failed inner met →
      likeness.failed { inner with output := one.output } { met with output := other.output }) :
    likeness.Ends (apart first one) (apart second other) := by
  unfold Rendering.apart
  rcases alike.ok_or_error forks with
    ⟨inner, met, steps, others, alike⟩ | ⟨error, inner, met, steps, others, alike⟩
  · rw [steps, others]
    exact .ok (splices inner met alike)
  · rw [steps, others]
    exact .error (drops inner met alike)

theorem alike_forEach {α β : Type} {related : α → β → Prop} {first : α → Rendering State Unit}
    {second : β → Rendering State Unit} {items : List α} {others : List β}
    (pairs : List.Forall₂ related items others)
    (each : ∀ item other, related item other → likeness.Alike (first item) (second other)) :
    likeness.Alike (forEach first items) (forEach second others) := by
  induction pairs with
  | nil => exact alike_pure
  | cons pair _ induction => exact (each _ _ pair).andThen induction

end Likeness

/-! ## Sections by rounds -/

/-- The scopes in which a section over a value renders its body, one after the other. -/
def Scopes.rounds (scopes : Scopes Lambda) : Value Lambda → List (Scopes Lambda)
  | .map entries => if entries.isEmpty then [] else [scopes.bind entries]
  | .list items => items.map scopes.bindElement
  | .lambda _ => []
  | value => if value.isTruthy then [scopes.child] else []

theorem Rendering.forEach_map {α β : Type} (transform : α → β) (step : β → Rendering State Unit)
    (items : List α) :
    forEach step (items.map transform) = forEach (fun item => step (transform item)) items := by
  induction items with
  | nil => rfl
  | cons item rest induction => rw [List.map_cons, forEach, forEach, induction]

theorem Rendering.forEach_ite {α : Type} (step : α → Rendering State Unit) (item : α)
    (condition : Bool) :
    forEach step (if condition then [item] else []) = if condition then step item else pure () := by
  cases condition with
  | false => rfl
  | true => exact bind_pure_unit

theorem Value.ne_lambda_of_free {value : Value Lambda} (free : value.lambdaFree = true)
    (lambda : Lambda) : value ≠ .lambda lambda := by
  rintro rfl
  cases free

/-- A section whose value is no lambda renders its body in each of its rounds. -/
theorem Node.render_section (surroundings : Surroundings State Lambda)
    (including : String → Scopes Lambda → Rendering State Unit) (scopes : Scopes Lambda)
    {name : String} (plain : ∀ lambda, scopes.lookup name ≠ .lambda lambda)
    (body closeBody : String) (markers closeMarkers : Markers) (children : List Node) :
    Node.render surroundings including scopes
        (.group .section name body markers children closeBody closeMarkers) =
      consult surroundings.host >>= fun _ =>
        forEach (fun inner => Node.renderForest surroundings including inner children)
          (scopes.rounds (scopes.lookup name)) := by
  let step (inner : Scopes Lambda) := Node.renderForest surroundings including inner children
  rw [Node.render]
  congr 1
  funext _
  cases found : scopes.lookup name with
  | map entries =>
      rw [Scopes.rounds]
      cases entries with
      | nil => rfl
      | cons entry rest => exact bind_pure_unit.symm
  | list items => exact (forEach_map scopes.bindElement step items).symm
  | lambda lambda => exact absurd found (plain lambda)
  | absent | bool _ | integer _ | float _ | text _ => exact (forEach_ite step scopes.child _).symm

/-! ## Scopes side by side -/

/-- What is bound around an element of a list. -/
def Value.locals : Value Lambda → Bindings Lambda
  | .map entries => entries
  | other => [(".", other)]

theorem Value.lambdaFree_locals {value : Value Lambda} (free : value.lambdaFree = true) :
    entriesLambdaFree value.locals = true := by
  cases value with
  | map entries => exact free
  | _ => simp [locals, entriesLambdaFree, free]

namespace Scopes

theorem bindElement_eq (scopes : Scopes Lambda) (element : Value Lambda) :
    scopes.bindElement element = scopes.enter ⟨element.locals, none⟩ := by
  cases element <;> rfl

theorem lambdaFree_root {locals : Bindings Lambda}
    (free : Value.entriesLambdaFree locals = true) : (root locals).LambdaFree := by
  intro scope member
  cases List.mem_singleton.mp member
  exact free

theorem lookup_congr {one other : Scopes Lambda}
    (same : ∀ key, one.resolve key = other.resolve key) : one.lookup = other.lookup := by
  funext name
  unfold lookup
  split
  · exact same "."
  · split
    · rfl
    · rw [same]

/-- Pairs of scopes in which names have no lambdas, are written alike and open scopes
that are pairs of this kind again. -/
structure Kinship (like : Scopes Lambda → Scopes Lambda → Prop) : Prop where
  free : ∀ {one other}, like one other → ∀ name,
    (one.lookup name).lambdaFree = true ∧ (other.lookup name).lambdaFree = true
  output : ∀ {one other}, like one other → ∀ name,
    (one.lookup name).output = (other.lookup name).output
  falsy : ∀ {one other}, like one other → ∀ name,
    (one.lookup name).isFalsy = (other.lookup name).isFalsy
  rounds : ∀ {one other}, like one other → ∀ name,
    List.Forall₂ like (one.rounds (one.lookup name)) (other.rounds (other.lookup name))

/-- Entering one scope on both sides keeps the relation. -/
def Enters (like : Scopes Lambda → Scopes Lambda → Prop) : Prop :=
  ∀ {one other}, like one other → ∀ locals, Value.entriesLambdaFree locals = true →
    like (one.enter ⟨locals, none⟩) (other.enter ⟨locals, none⟩)

theorem Enters.rounds {like : Scopes Lambda → Scopes Lambda → Prop} (enters : Enters like)
    {one other : Scopes Lambda} (alike : like one other) {value : Value Lambda}
    (free : value.lambdaFree = true) :
    List.Forall₂ like (one.rounds value) (other.rounds value) := by
  have once (condition : Bool) (locals : Bindings Lambda)
      (free : Value.entriesLambdaFree locals = true) :
      List.Forall₂ like (if condition then [one.enter ⟨locals, none⟩] else [])
        (if condition then [other.enter ⟨locals, none⟩] else []) := by
    cases condition with
    | false => exact .nil
    | true => exact .cons (enters alike locals free) .nil
  have child := once value.isTruthy [] rfl
  cases value with
  | map entries =>
      rw [Scopes.rounds, Scopes.rounds]
      cases entries with
      | nil => exact .nil
      | cons entry rest => exact once true _ free
  | list items =>
      rw [Scopes.rounds, Scopes.rounds, List.forall₂_map_left_iff, List.forall₂_map_right_iff,
        List.forall₂_same]
      intro item member
      rw [bindElement_eq, bindElement_eq]
      exact enters alike _ (Value.lambdaFree_locals (Value.lambdaFree_of_mem free member))
  | lambda lambda => cases free
  | absent | bool _ | integer _ | float _ | text _ => exact child

/-- Scopes without lambdas in which each name has the same value. -/
theorem Enters.kinship {like : Scopes Lambda → Scopes Lambda → Prop} (enters : Enters like)
    (free : ∀ {one other}, like one other → one.LambdaFree)
    (same : ∀ {one other}, like one other → one.lookup = other.lookup) : Kinship like where
  free alike name := ⟨(free alike).lookup name, same alike ▸ (free alike).lookup name⟩
  output alike name := by rw [same alike]
  falsy alike name := by rw [same alike]
  rounds alike name := by
    rw [← same alike]
    exact enters.rounds alike ((free alike).lookup name)

/-- Equal scopes without lambdas, which belong to a file of some kind. -/
def Same (files : Option Path → Prop) (one other : Scopes Lambda) : Prop :=
  one = other ∧ one.LambdaFree ∧ files one.currentFile

theorem kinship_same (files : Option Path → Prop) :
    Kinship (Same files : Scopes Lambda → Scopes Lambda → Prop) := by
  have enters : Enters (Same files : Scopes Lambda → Scopes Lambda → Prop) := by
    rintro one other ⟨rfl, free, within⟩ locals own
    exact ⟨rfl, free.enter own, within⟩
  refine enters.kinship (fun alike => alike.2.1) ?_
  rintro one other ⟨rfl, -⟩
  rfl

end Scopes

/-! ## Templates side by side -/

namespace Likeness

variable {likeness : Likeness State} {surroundings : Surroundings State Lambda}
  {like : Scopes Lambda → Scopes Lambda → Prop}
  {including including' : String → Scopes Lambda → Rendering State Unit}

/-- The single steps of a template keep the likeness. -/
structure Kept (likeness : Likeness State) (surroundings : Surroundings State Lambda) :
    Prop where
  consult : likeness.Alike (consult surroundings.host) (consult surroundings.host)
  writeRaw : ∀ text, likeness.Alike (writeRaw text) (writeRaw text)
  write : ∀ text, likeness.Alike (write text) (write text)

theorem textOf_eq_output {value : Value Lambda} (free : value.lambdaFree = true)
    (scopes : Scopes Lambda) : surroundings.textOf value scopes = value.output := by
  cases value with
  | lambda lambda => cases free
  | _ => rfl

/-- Two sections of one name that may be written in different ways. -/
theorem Kept.group (kept : likeness.Kept surroundings) (kin : Scopes.Kinship like)
    {one other : Scopes Lambda} (alike : like one other) (kind : GroupKind) (name : String)
    {body body' closeBody closeBody' : String}
    {markers markers' closeMarkers closeMarkers' : Markers} {children children' : List Node}
    (inside : ∀ one other, like one other →
      likeness.Alike (Node.renderForest surroundings including one children)
        (Node.renderForest surroundings including' other children')) :
    likeness.Alike
      (Node.render surroundings including one
        (.group kind name body markers children closeBody closeMarkers))
      (Node.render surroundings including' other
        (.group kind name body' markers' children' closeBody' closeMarkers')) := by
  cases kind with
  | inverted =>
      rw [Node.render, Node.render]
      refine kept.consult.andThen ?_
      rw [kin.falsy alike name]
      split
      · exact inside one other alike
      · exact alike_pure
  | «section» =>
      have free := kin.free alike name
      rw [Node.render_section _ _ _ (Value.ne_lambda_of_free free.1),
        Node.render_section _ _ _ (Value.ne_lambda_of_free free.2)]
      exact kept.consult.andThen (alike_forEach (kin.rounds alike name) inside)

mutual
theorem Kept.node (kept : likeness.Kept surroundings) (kin : Scopes.Kinship like)
    (includes : ∀ name one other, like one other →
      likeness.Alike (including name one) (including' name other))
    (node : Node) {one other : Scopes Lambda} (alike : like one other) :
    likeness.Alike (node.render surroundings including one)
      (node.render surroundings including' other) := by
  cases node with
  | plain text markers =>
      rw [Node.render, Node.render]
      exact kept.writeRaw text
  | leaf kind name body markers =>
      have free := kin.free alike name
      cases kind with
      | name =>
          rw [Node.render, Node.render, textOf_eq_output free.1, textOf_eq_output free.2,
            kin.output alike name]
          exact kept.write _
      | unescaped | triple =>
          rw [Node.render, Node.render, textOf_eq_output free.1, textOf_eq_output free.2,
            kin.output alike name]
          exact kept.writeRaw _
      | comment | pragma | redelimit =>
          rw [Node.render, Node.render]
          exact alike_pure
      | inclusion =>
          rw [Node.render, Node.render]
          exact kept.consult.andThen (includes name one other alike)
  | group kind name body markers children closeBody closeMarkers =>
      refine kept.group kin alike kind name ?_
      intro inner under alike
      exact kept.forest kin includes children alike

theorem Kept.forest (kept : likeness.Kept surroundings) (kin : Scopes.Kinship like)
    (includes : ∀ name one other, like one other →
      likeness.Alike (including name one) (including' name other))
    (nodes : List Node) {one other : Scopes Lambda} (alike : like one other) :
    likeness.Alike (Node.renderForest surroundings including one nodes)
      (Node.renderForest surroundings including' other nodes) := by
  cases nodes with
  | nil =>
      rw [Node.renderForest, Node.renderForest]
      exact alike_pure
  | cons node rest =>
      rw [Node.renderForest, Node.renderForest]
      exact (kept.node kin includes node alike).andThen (kept.forest kin includes rest alike)
end

/-- The steps of an inclusion keep the likeness as well. What is noted of a template that
cannot be had may name different templates around it. -/
structure KeptThrough (likeness : Likeness State) (surroundings : Surroundings State Lambda) :
    Prop extends likeness.Kept surroundings where
  fails : ∀ one other, likeness.ongoing one other → likeness.failed one other
  loaded : ∀ path, likeness.Alike (note (.loaded path)) (note (.loaded path))
  unresolved : ∀ path includer includer' error,
    likeness.Alike (note (.unresolved path includer error))
      (note (.unresolved path includer' error))
  inspect : ∀ template,
    likeness.Alike (inspect surroundings.host template) (inspect surroundings.host template)
  apart : ∀ {first second}, likeness.Alike first second →
    likeness.Alike (apart first) (apart second)

theorem KeptThrough.throw (kept : likeness.KeptThrough surroundings) (error : Error) :
    likeness.Alike (throw error) (throw error) := by
  intro one other alike
  exact .error (kept.fails one other alike)

end Likeness

/-- An inclusion that is not too deep begins with noting the path that it loads. -/
theorem Template.renderInclusion_succ (surroundings : Surroundings State Lambda) (depth : Nat)
    (includer name : String) (scopes : Scopes Lambda) :
    let path := Path.ofInclusion scopes.currentFile name surroundings.extension
    renderInclusion surroundings (depth + 1) includer name scopes =
      note (.loaded path) >>= fun _ =>
        match surroundings.store.readText path with
        | .error error => note (.unresolved path includer error)
        | .ok text =>
          match parse path.text text with
          | .error fault => throw (.fault fault)
          | .ok template =>
            inspect surroundings.host template >>= fun _ =>
              apart (Node.renderForest surroundings
                (renderInclusion surroundings depth template.name) (scopes.enterFile path)
                template.forest) := by
  rfl

namespace Likeness

variable {likeness : Likeness State} {surroundings : Surroundings State Lambda}
  {like : Scopes Lambda → Scopes Lambda → Prop}

/-- An inclusion in two ways; the names of the templates around it do not matter. -/
theorem KeptThrough.renderInclusion (kept : likeness.KeptThrough surroundings)
    (kin : Scopes.Kinship like)
    (file : ∀ {one other}, like one other → one.currentFile = other.currentFile)
    (enterFile : ∀ {one other}, like one other → ∀ path,
      like (one.enterFile path) (other.enterFile path))
    (depth : Nat) (includer includer' name : String) {one other : Scopes Lambda}
    (alike : like one other) :
    likeness.Alike (Template.renderInclusion surroundings depth includer name one)
      (Template.renderInclusion surroundings depth includer' name other) := by
  induction depth generalizing includer includer' name one other with
  | zero =>
      rw [Template.renderInclusion, Template.renderInclusion, file alike]
      exact kept.throw _
  | succ depth induction =>
      rw [Template.renderInclusion_succ, Template.renderInclusion_succ, file alike]
      refine (kept.loaded _).andThen ?_
      split
      · exact kept.unresolved _ _ _ _
      · split
        · exact kept.throw _
        · next template parsed =>
          refine (kept.inspect template).andThen (kept.apart ?_)
          exact kept.forest kin (fun name one other alike => induction _ _ name alike)
            template.forest (enterFile alike _)

/-- Inclusions that are alike under the same scopes without lambdas. -/
def Includes (likeness : Likeness State)
    (including including' : String → Scopes Lambda → Rendering State Unit) : Prop :=
  ∀ name {scopes : Scopes Lambda}, scopes.LambdaFree →
    likeness.Alike (including name scopes) (including' name scopes)

theorem KeptThrough.includes (kept : likeness.KeptThrough surroundings) (depth : Nat)
    (includer includer' : String) :
    likeness.Includes (Template.renderInclusion surroundings depth includer)
      (Template.renderInclusion surroundings depth includer') := by
  intro name scopes free
  refine kept.renderInclusion (Scopes.kinship_same fun _ => True) ?_ ?_ depth includer includer'
    name ⟨rfl, free, trivial⟩
  · rintro one other ⟨rfl, -⟩
    rfl
  · rintro one other ⟨rfl, free, -⟩ path
    exact ⟨rfl, free.enter rfl, trivial⟩

section Same

variable {including including' : String → Scopes Lambda → Rendering State Unit}
  {scopes : Scopes Lambda}

theorem Kept.node_same (kept : likeness.Kept surroundings)
    (includes : likeness.Includes including including') (node : Node)
    (free : scopes.LambdaFree) :
    likeness.Alike (node.render surroundings including scopes)
      (node.render surroundings including' scopes) := by
  refine kept.node (Scopes.kinship_same fun _ => True) ?_ node ⟨rfl, free, trivial⟩
  rintro name one other ⟨rfl, free, -⟩
  exact includes name free

theorem Kept.forest_same (kept : likeness.Kept surroundings)
    (includes : likeness.Includes including including') (nodes : List Node)
    (free : scopes.LambdaFree) :
    likeness.Alike (Node.renderForest surroundings including scopes nodes)
      (Node.renderForest surroundings including' scopes nodes) := by
  refine kept.forest (Scopes.kinship_same fun _ => True) ?_ nodes ⟨rfl, free, trivial⟩
  rintro name one other ⟨rfl, free, -⟩
  exact includes name free

end Same

end Likeness

end Mustache
