import Mustache.Proofs.Likeness
import Mustache.Proofs.Rendering

namespace Mustache

/-! An inclusion writes what the included template would write in its place. The
template is loaded and read while the rendering goes on, it has a scope of its own and
writes to an output of its own; none of this shows in the output. -/

open Rendering Likeness

variable {State Lambda : Type}

/-! ## One inclusion replaced -/

/-- The second forest is the first one with a forest in the place of one inclusion of a
name. -/
inductive Forest.Inlines (name : String) (included : Forest) : Forest → Forest → Prop where
  | here {body : String} {markers : Markers} {rest : Forest} :
      Inlines name included (.leaf .inclusion name body markers :: rest) (included ++ rest)
  | inside {kind : GroupKind} {own body closeBody : String} {markers closeMarkers : Markers}
      {children inlined rest : Forest} (inlines : Inlines name included children inlined) :
      Inlines name included
        (.group kind own body markers children closeBody closeMarkers :: rest)
        (.group kind own body markers inlined closeBody closeMarkers :: rest)
  | later {node : Node} {rest inlined : Forest} (inlines : Inlines name included rest inlined) :
      Inlines name included (node :: rest) (node :: inlined)

section Outline

variable {name body : String} {markers : Markers} {item : OutlineItem}

mutual
theorem Node.exists_inlines (included : Forest) (node : Node) (rest : Forest)
    (parent : Option Nat) (first : Nat) (listed : item ∈ node.outline parent first)
    (inclusion : item.node = .leaf .inclusion name body markers) :
    ∃ inlined, Forest.Inlines name included (node :: rest) inlined := by
  cases node with
  | plain text own =>
      cases List.mem_singleton.mp listed
      cases inclusion
  | leaf kind text own marks =>
      cases List.mem_singleton.mp listed
      cases inclusion
      exact ⟨_, .here⟩
  | group kind own start marks children closeBody closeMarkers =>
      rcases List.mem_cons.mp listed with rfl | listed
      · cases inclusion
      · rcases Node.forest_exists_inlines included children _ _ listed inclusion with
          ⟨inlined, inlines⟩
        exact ⟨_, .inside inlines⟩

/-- Each inclusion in a forest can be replaced. -/
theorem Node.forest_exists_inlines (included : Forest) (forest : Forest)
    (parent : Option Nat) (first : Nat) (listed : item ∈ Node.forestOutline parent first forest)
    (inclusion : item.node = .leaf .inclusion name body markers) :
    ∃ inlined, Forest.Inlines name included forest inlined := by
  cases forest with
  | nil => cases listed
  | cons node rest =>
      rcases List.mem_append.mp listed with listed | listed
      · exact Node.exists_inlines included node rest _ _ listed inclusion
      · rcases Node.forest_exists_inlines included rest _ _ listed inclusion with
          ⟨inlined, inlines⟩
        exact ⟨_, .later inlines⟩
end

end Outline

/-! ## Templates without inclusions -/

def Node.isInclusion : Node → Bool
  | .leaf .inclusion .. => true
  | _ => false

def Template.SelfContained (template : Template) : Prop :=
  ∀ item ∈ template.outline, item.node.isInclusion = false

instance (template : Template) : Decidable template.SelfContained :=
  List.decidableBAll _ _

theorem Template.SelfContained.not_inclusion {template : Template}
    (contained : template.SelfContained) {node : Node} (holds : template.Holds node) :
    node.isInclusion = false := by
  rcases holds with ⟨item, listed, rfl⟩
  exact contained item listed

section SelfContained

variable {surroundings : Surroundings State Lambda} {template : Template}

mutual
/-- Nothing is included, so it does not matter how that is done. -/
theorem Node.render_selfContained (contained : template.SelfContained)
    (including other : String → Scopes Lambda → Rendering State Unit) (node : Node)
    (holds : template.Holds node) (scopes : Scopes Lambda) :
    node.render surroundings including scopes = node.render surroundings other scopes := by
  cases node with
  | plain text markers => rw [Node.render, Node.render]
  | leaf kind name body markers =>
      cases kind with
      | inclusion => cases contained.not_inclusion holds
      | _ => rw [Node.render, Node.render]
  | group kind name body markers children closeBody closeMarkers =>
      have inside : ∀ inner : Scopes Lambda,
          Node.renderForest surroundings including inner children =
            Node.renderForest surroundings other inner children :=
        Node.renderForest_selfContained contained including other children
          fun _ member => holds.child member
      cases kind with
      | inverted => rw [Node.render, Node.render, inside]
      | «section» => simp only [Node.render, inside]

theorem Node.renderForest_selfContained (contained : template.SelfContained)
    (including other : String → Scopes Lambda → Rendering State Unit) (nodes : List Node)
    (holds : ∀ node ∈ nodes, template.Holds node) (scopes : Scopes Lambda) :
    Node.renderForest surroundings including scopes nodes =
      Node.renderForest surroundings other scopes nodes := by
  cases nodes with
  | nil => rw [Node.renderForest, Node.renderForest]
  | cons node rest =>
      rcases List.forall_mem_cons.mp holds with ⟨first, others⟩
      rw [Node.renderForest, Node.renderForest,
        Node.render_selfContained contained including other node first,
        Node.renderForest_selfContained contained including other rest others]
end

end SelfContained

theorem Node.renderForest_append (surroundings : Surroundings State Lambda)
    (including : String → Scopes Lambda → Rendering State Unit) (scopes : Scopes Lambda)
    (first second : Forest) :
    Node.renderForest surroundings including scopes (first ++ second) =
      Node.renderForest surroundings including scopes first >>= fun _ =>
        Node.renderForest surroundings including scopes second := by
  induction first with
  | nil => rfl
  | cons node rest induction =>
      rw [List.cons_append, Node.renderForest, Node.renderForest, induction]
      exact (bind_assoc ..).symm

/-! ## Steps that do not show -/

/-- The step ends well and leaves the output as it is. -/
def Rendering.Silent (step : Rendering State Unit) : Prop :=
  ∀ progress, ∃ after, step progress = .ok () after ∧ after.output = progress.output

theorem Rendering.silent_note (event : Event) : Silent (note event : Rendering State Unit) := by
  intro progress
  exact ⟨_, rfl, rfl⟩

/-- A host that accepts all templates and always lets a rendering go on. -/
structure Host.Obliging (host : Host State Lambda) : Prop where
  inspect : ∀ template state, (host.inspect template state).1 = .ok ()
  proceed : ∀ state, (host.proceed state).1 = true

theorem Host.Obliging.silent_consult {host : Host State Lambda} (obliging : host.Obliging) :
    Silent (consult host) := by
  intro progress
  cases answer : host.proceed progress.host with
  | mk granted state =>
      have grants := obliging.proceed progress.host
      rw [answer] at grants
      cases grants
      refine ⟨_, consult_eq answer, ?_⟩
      simp [Progress.after]

theorem Host.Obliging.silent_inspect {host : Host State Lambda} (obliging : host.Obliging)
    (template : Template) : Silent (Rendering.inspect host template) := by
  intro progress
  cases answer : host.inspect template progress.host with
  | mk verdict state =>
      have accepts := obliging.inspect template progress.host
      rw [answer] at accepts
      cases accepts
      refine ⟨_, inspect_eq answer, ?_⟩
      simp [Progress.after]

/-! ## Outputs side by side -/

namespace Output

theorem splice_fork (output : Output) : output.splice output.fork = output := by
  simp [splice, fork, empty]

theorem splice_appendRaw (output inner : Output) (text : String) :
    output.splice (inner.appendRaw text) = (output.splice inner).appendRaw text := by
  unfold appendRaw
  split
  · rfl
  · simp [splice]

theorem splice_append {output inner : Output} (encoded : inner.encoding = output.encoding)
    (text : String) : output.splice (inner.append text) = (output.splice inner).append text := by
  unfold append
  split
  · rfl
  · simp [splice, encoded]

end Output

namespace Likeness

/-- Renderings that are related by their outputs alone. -/
def ofOutputs (related : Output → Output → Prop) (failed : Progress State → Progress State → Prop) :
    Likeness State :=
  ⟨fun one other => related one.output other.output, failed⟩

theorem alike_of_silent {related : Output → Output → Prop}
    {failed : Progress State → Progress State → Prop} {first second : Rendering State Unit}
    (silent : Silent first) (silent' : Silent second) :
    (ofOutputs related failed).Alike first second := by
  intro one other alike
  rcases silent one with ⟨reached, steps, same⟩
  rcases silent' other with ⟨met, others, same'⟩
  rw [steps, others]
  refine .ok ?_
  change related reached.output met.output
  rw [same, same']
  exact alike

/-- A silent step may come before one of the two. -/
theorem Alike.after {related : Output → Output → Prop}
    {failed : Progress State → Progress State → Prop} {first next second : Rendering State Unit}
    (silent : Silent first) (alike : (ofOutputs related failed).Alike next second) :
    (ofOutputs related failed).Alike (first >>= fun _ => next) second := by
  intro one other same
  rcases silent one with ⟨reached, steps, kept⟩
  rw [bind_of_ok steps]
  refine alike reached other ?_
  change related reached.output other.output
  rw [kept]
  exact same

/-- The same output, with anything else in the progress. -/
def sameOutput : Likeness State :=
  ofOutputs Eq fun one other => one.output = other.output

/-- One rendering writes to a fork of an output, the other one behind that output, and
neither fails. -/
def behind (output : Output) : Likeness State :=
  ofOutputs
    (fun one other => one.encoding = output.encoding ∧ other = output.splice one)
    fun _ _ => False

variable {surroundings : Surroundings State Lambda}

theorem kept_behind (obliging : surroundings.host.Obliging) (output : Output) :
    (behind output).Kept surroundings where
  consult := alike_of_silent obliging.silent_consult obliging.silent_consult
  writeRaw text := by
    rintro one other ⟨encoded, same⟩
    refine .ok ⟨?_, ?_⟩
    · exact (Output.encoding_appendRaw _ _).trans encoded
    · exact (congrArg (Output.appendRaw · text) same).trans
        (Output.splice_appendRaw output one.output text).symm
  write text := by
    rintro one other ⟨encoded, same⟩
    refine .ok ⟨?_, ?_⟩
    · exact (Output.encoding_append _ _).trans encoded
    · exact (congrArg (Output.append · text) same).trans
        (Output.splice_append encoded text).symm

theorem keptThrough_sameOutput (obliging : surroundings.host.Obliging) :
    sameOutput.KeptThrough surroundings where
  consult := alike_of_silent obliging.silent_consult obliging.silent_consult
  writeRaw text := by
    intro one other same
    exact .ok (congrArg (Output.appendRaw · text) same)
  write text := by
    intro one other same
    exact .ok (congrArg (Output.append · text) same)
  fails one other same := same
  loaded path := alike_of_silent (silent_note _) (silent_note _)
  unresolved path includer includer' error := alike_of_silent (silent_note _) (silent_note _)
  inspect template :=
    alike_of_silent (obliging.silent_inspect template) (obliging.silent_inspect template)
  apart := by
    intro first second alike one other same
    exact alike.apart (congrArg Output.fork same) (fun _ _ => congrArg₂ Output.splice same)
      fun _ _ _ => same

end Likeness

/-! ## The template in the place of its inclusion -/

namespace Template

/-- Scopes in which each name has the same value, whatever file they belong to. -/
def sameNames (one other : Scopes Lambda) : Prop :=
  one.LambdaFree ∧ ∀ key, one.resolve key = other.resolve key

theorem kinship_sameNames :
    Scopes.Kinship (sameNames : Scopes Lambda → Scopes Lambda → Prop) := by
  have enters : Scopes.Enters (sameNames : Scopes Lambda → Scopes Lambda → Prop) := by
    rintro one other ⟨free, same⟩ locals own
    refine ⟨free.enter own, fun key => ?_⟩
    rw [Scopes.resolve_enter, Scopes.resolve_enter, same]
  exact enters.kinship (fun alike => alike.1) fun alike => Scopes.lookup_congr alike.2

variable {surroundings : Surroundings State Lambda}

/-- The body of the included template, once with an output of its own and once in its place. -/
theorem alike_forest (obliging : surroundings.host.Obliging) {scopes : Scopes Lambda}
    (free : scopes.LambdaFree) {included : Template} (contained : included.SelfContained)
    (path : Path) (own including : String → Scopes Lambda → Rendering State Unit)
    (output : Output) :
    (behind output).Alike
      (Node.renderForest surroundings own (scopes.enterFile path) included.forest)
      (Node.renderForest surroundings including scopes included.forest) := by
  let nothing : String → Scopes Lambda → Rendering State Unit := fun _ _ => pure ()
  have held : ∀ node ∈ included.forest, included.Holds node := fun _ => holds_of_mem
  rw [Node.renderForest_selfContained contained own nothing _ held,
    Node.renderForest_selfContained contained including nothing _ held]
  refine (kept_behind obliging output).forest kinship_sameNames
    (fun _ _ _ _ => alike_pure) included.forest ⟨free.enter rfl, fun key => ?_⟩
  rw [Scopes.enterFile, Scopes.resolve_enter]
  rfl

theorem alike_included (obliging : surroundings.host.Obliging) {name : String}
    {scopes : Scopes Lambda} (free : scopes.LambdaFree) {included : Template}
    (found : surroundings.store.template?
      (.ofInclusion scopes.currentFile name surroundings.extension) = some included)
    (contained : included.SelfContained) (depth : Nat) (includer : String)
    (including : String → Scopes Lambda → Rendering State Unit) :
    sameOutput.Alike
      (consult surroundings.host >>= fun _ =>
        renderInclusion surroundings (depth + 1) includer name scopes)
      (Node.renderForest surroundings including scopes included.forest) := by
  rcases Store.exists_text_of_template? found with ⟨text, read, parsed⟩
  refine Alike.after obliging.silent_consult ?_
  rw [renderInclusion_succ]
  refine Alike.after (silent_note _) ?_
  simp only [read, parsed]
  refine Alike.after (obliging.silent_inspect included) ?_
  intro one other same
  have forked : (behind one.output).ongoing { one with output := one.output.fork } other :=
    ⟨rfl, same.symm.trans one.output.splice_fork.symm⟩
  unfold apart
  rcases (alike_forest obliging free contained _ _ including one.output).ok_or_error forked with
    ⟨reached, met, steps, others, -, spliced⟩ | ⟨error, reached, met, steps, others, never⟩
  · rw [steps, others]
    exact .ok spliced.symm
  · exact never.elim

/-- A forest and what it becomes when one inclusion is replaced. The scopes inside of
sections belong to the same file, so the path of the inclusion stays the same. -/
theorem alike_inlines (obliging : surroundings.host.Obliging) {name : String}
    {file : Option Path} {included : Template}
    (found : surroundings.store.template?
      (.ofInclusion file name surroundings.extension) = some included)
    (contained : included.SelfContained) (depth : Nat) (includer : String)
    {forest inlined : Forest} (inlines : Forest.Inlines name included.forest forest inlined)
    {scopes : Scopes Lambda} (free : scopes.LambdaFree) (within : scopes.currentFile = file) :
    sameOutput.Alike
      (Node.renderForest surroundings (renderInclusion surroundings (depth + 1) includer) scopes
        forest)
      (Node.renderForest surroundings (renderInclusion surroundings (depth + 1) includer) scopes
        inlined) := by
  have kept := keptThrough_sameOutput obliging
  have includes := kept.includes (depth + 1) includer includer
  induction inlines generalizing scopes with
  | @here body markers rest =>
      subst within
      rw [Node.renderForest, Node.renderForest_append, Node.render]
      refine (alike_included obliging free found contained depth includer _).andThen ?_
      exact kept.forest_same includes rest free
  | @inside kind own body closeBody markers closeMarkers children inlined rest inlines induction =>
      rw [Node.renderForest, Node.renderForest]
      refine Alike.andThen ?_ (kept.forest_same includes rest free)
      refine kept.group (Scopes.kinship_same (· = file)) ⟨rfl, free, within⟩ kind own ?_
      rintro inner _ ⟨rfl, free, within⟩
      exact induction free within
  | @later node rest inlined inlines induction =>
      rw [Node.renderForest, Node.renderForest]
      exact (kept.node_same includes node free).andThen (induction free within)

/-- A template renders as it does with an included template in the place of its
inclusion. The included template itself includes nothing. -/
theorem render_inlined (surroundings : Surroundings State Lambda)
    (obliging : surroundings.host.Obliging) (room : 0 < surroundings.depthLimit)
    {template included : Template} {name body : String} {markers : Markers}
    (holds : template.Holds (.leaf .inclusion name body markers)) {scopes : Scopes Lambda}
    (free : scopes.LambdaFree)
    (found : surroundings.store.template?
      (.ofInclusion scopes.currentFile name surroundings.extension) = some included)
    (contained : included.SelfContained) (progress : Progress State) :
    (∃ inlined, Forest.Inlines name included.forest template.forest inlined) ∧
      ∀ inlined, Forest.Inlines name included.forest template.forest inlined →
        let whole := template.render surroundings scopes
        let flat := render surroundings ⟨template.name, inlined⟩ scopes
        whole.outcome progress = flat.outcome progress ∧
          (whole.reached progress).output = (flat.reached progress).output := by
  constructor
  · rcases holds with ⟨item, listed, same⟩
    exact Node.forest_exists_inlines included.forest template.forest none 0 listed same
  · intro inlined inlines
    have alike : sameOutput.Alike (template.render surroundings scopes)
        (render surroundings ⟨template.name, inlined⟩ scopes) := by
      obtain ⟨depth, limit⟩ : ∃ depth, surroundings.depthLimit = depth + 1 :=
        Nat.exists_eq_add_one.mpr room
      rw [render, render, limit]
      refine Alike.andThen ?_
        (alike_inlines obliging found contained depth template.name inlines free rfl)
      exact alike_of_silent (obliging.silent_inspect template) (obliging.silent_inspect _)
    exact alike.outcome_and_reached rfl

/-- The inclusion stands in a section over two elements. -/
theorem render_inlined_list :
    let scopes : Scopes Unit := .root
      [("s", .list [.map [("n", .text "<")], .map [("n", .text "b")]])]
    let page : Template := ⟨"page",
      [.group .section "s" "#s" .standard [.leaf .inclusion "p" ">p" .standard] "/s" .standard]⟩
    ∃ included inlined,
      Surroundings.italic.store.template? ⟨"p"⟩ = some included ∧
      Forest.Inlines "p" included.forest page.forest inlined ∧
      ((render .italic ⟨"page", inlined⟩ scopes).reached
          ⟨.empty .html, (), #[]⟩).output.fragments =
        #["<i>", "&lt;", "</i>", "<i>", "b", "</i>"] := by
  intro scopes page
  have holds : page.Holds (.leaf .inclusion "p" ">p" .standard) :=
    (holds_of_mem List.mem_cons_self).child List.mem_cons_self
  have written : ((page.render .italic scopes).reached ⟨.empty .html, (), #[]⟩).output.fragments =
      #["<i>", "&lt;", "</i>", "<i>", "b", "</i>"] := by decide +kernel
  have free : scopes.LambdaFree := Scopes.lambdaFree_root rfl
  have obliging : Surroundings.italic.host.Obliging := ⟨fun _ _ => rfl, fun _ => rfl⟩
  have known : (Surroundings.italic.store.template? ⟨"p"⟩).isSome := by decide +kernel
  have contained : ∀ source ∈ Surroundings.italic.store.template? ⟨"p"⟩, source.SelfContained := by
    decide +kernel
  have path : Path.ofInclusion scopes.currentFile "p" Surroundings.italic.extension = ⟨"p"⟩ := by
    decide +kernel
  rcases Option.isSome_iff_exists.mp known with ⟨included, found⟩
  rcases render_inlined .italic obliging (by decide) holds free (path ▸ found)
    (contained included found) ⟨.empty .html, (), #[]⟩ with ⟨⟨inlined, inlines⟩, same⟩
  refine ⟨included, inlined, found, inlines, ?_⟩
  rw [← written]
  exact congrArg Output.fragments (same inlined inlines).2.symm

end Template

end Mustache
