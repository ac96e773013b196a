import Mustache.Proofs.Likeness
import Mustache.Proofs.Rendering

namespace Mustache

/-! How a tag is written does not show. What a rendering depends on in a tree is its
essence, which has no silent tags, no marks and no bodies of tags, and in which texts
that follow one another are one. -/

open Rendering Likeness

variable {State Lambda : Type}

/-! ## Essences -/

/-- A text in front of a forest, joined with a text that stands first there. -/
def Node.joinText (text : String) : Forest → Forest
  | .plain more _ :: rest => .plain (text ++ more) .standard :: rest
  | rest => .plain text .standard :: rest

mutual
/-- The essence of a node in front of the essence of what follows it. -/
def Node.essence (rest : Forest) : Node → Forest
  | .plain text _ => Node.joinText text rest
  | .leaf .comment _ _ _ | .leaf .pragma _ _ _ | .leaf .redelimit _ _ _ => rest
  | .leaf .name name _ _ => .leaf .name name "" .standard :: rest
  | .leaf .unescaped name _ _ | .leaf .triple name _ _ =>
    .leaf .unescaped name "" .standard :: rest
  | .leaf .inclusion name _ _ => .leaf .inclusion name "" .standard :: rest
  | .group kind name _ _ children _ _ =>
    .group kind name "" .standard (Node.forestEssence children) "" .standard :: rest

def Node.forestEssence : List Node → Forest
  | [] => []
  | node :: rest => node.essence (Node.forestEssence rest)
end

def Template.essence (template : Template) : Forest :=
  Node.forestEssence template.forest

/-! ## Hosts with a clock -/

/-- A host that accepts all templates and reads from a clock whether a rendering goes on.
Each answer moves the clock and nothing else does; it may count the answers. -/
structure Host.Clocked {Clock : Type} (host : Host State Lambda) (clock : State → Clock)
    (answer : Clock → Bool) (tick : Clock → Clock) : Prop where
  inspect : ∀ template state, (host.inspect template state).1 = .ok () ∧
    clock (host.inspect template state).2 = clock state
  proceed : ∀ state, (host.proceed state).1 = answer (clock state) ∧
    clock (host.proceed state).2 = tick (clock state)

/-! ## The same text -/

/-- The same text, however it is divided into fragments, at the same time by the clock of
the host and after the same loads. -/
structure Progress.SameText {Clock : Type} (clock : State → Clock) (one other : Progress State) :
    Prop where
  encoding : one.output.encoding = other.output.encoding
  text : one.output.text = other.output.text
  time : clock one.host = clock other.host
  loads : one.loads = other.loads

namespace Output

theorem text_append_congr {one other : Output} (encoding : one.encoding = other.encoding)
    (same : one.text = other.text) (text : String) :
    (one.append text).text = (other.append text).text := by
  unfold append
  split
  · exact same
  · simp only [Output.text, Array.foldl_push] at same ⊢
    rw [same, encoding]

theorem text_eq_join (output : Output) : output.text = String.join output.fragments.toList := by
  rw [text, ← Array.foldl_toList]
  rfl

theorem text_splice (output inner : Output) :
    (output.splice inner).text = output.text ++ inner.text := by
  rw [text_eq_join, text_eq_join, text_eq_join, splice, Array.toList_append, String.join_append]

end Output

namespace Progress.SameText

variable {Clock : Type} {clock : State → Clock} {one other last : Progress State}

theorem refl (progress : Progress State) : SameText clock progress progress :=
  ⟨rfl, rfl, rfl, rfl⟩

theorem trans (same : SameText clock one other) (more : SameText clock other last) :
    SameText clock one last :=
  ⟨same.encoding.trans more.encoding, same.text.trans more.text, same.time.trans more.time,
    same.loads.trans more.loads⟩

theorem symm (same : SameText clock one other) : SameText clock other one :=
  ⟨same.encoding.symm, same.text.symm, same.time.symm, same.loads.symm⟩

/-- A step that tells the journal something, the same loads on both sides. -/
theorem tell (same : SameText clock one other) {host host' : State} {event event' : Event}
    (time : clock host = clock host') (loads : event.path? = event'.path?) :
    SameText clock ⟨one.output, host, one.journal.push event⟩
      ⟨other.output, host', other.journal.push event'⟩ where
  encoding := same.encoding
  text := same.text
  time := time
  loads := by
    have before := same.loads
    simp only [Progress.loads, Array.toList_push, List.filterMap_append] at before ⊢
    rw [before, List.filterMap_cons, List.filterMap_cons, loads]

end Progress.SameText

namespace Host.Clocked

variable {Clock : Type} {host : Host State Lambda} {clock : State → Clock}
  {answer : Clock → Bool} {tick : Clock → Clock}

theorem consults (clocked : host.Clocked clock answer tick) (progress : Progress State) :
    ∃ state, clock state = tick (clock progress.host) ∧
      consult host progress =
        ended (if answer (clock progress.host) then .ok () else .error .interrupted)
          ⟨progress.output, state,
            progress.journal.push (.asked (answer (clock progress.host)))⟩ := by
  cases asked : host.proceed progress.host with
  | mk granted state =>
      have said := clocked.proceed progress.host
      rw [asked] at said
      rcases said with ⟨rfl, ticked⟩
      refine ⟨state, ticked, ?_⟩
      rw [consult_eq asked, Walk.after_single rfl]

theorem inspects (clocked : host.Clocked clock answer tick) (template : Template)
    (progress : Progress State) :
    ∃ state, clock state = clock progress.host ∧
      Rendering.inspect host template progress =
        .ok () ⟨progress.output, state, progress.journal.push (.inspected template)⟩ := by
  cases asked : host.inspect template progress.host with
  | mk verdict state =>
      have said := clocked.inspect template progress.host
      rw [asked] at said
      rcases said with ⟨rfl, ticked⟩
      refine ⟨state, ticked, ?_⟩
      rw [inspect_eq asked, Walk.after_single rfl]
      rfl

end Host.Clocked

namespace Likeness

variable {Clock : Type} {clock : State → Clock} {answer : Clock → Bool} {tick : Clock → Clock}
  {surroundings : Surroundings State Lambda}

def sameText (clock : State → Clock) : Likeness State :=
  throughout (Progress.SameText clock)

/-- The host accepts any two templates. -/
theorem alike_inspect (clocked : surroundings.host.Clocked clock answer tick)
    (template other : Template) :
    (sameText clock).Alike (inspect surroundings.host template)
      (inspect surroundings.host other) := by
  intro progress progress' same
  rcases clocked.inspects template progress with ⟨state, ticked, steps⟩
  rcases clocked.inspects other progress' with ⟨state', ticked', steps'⟩
  rw [steps, steps']
  exact .ok (same.tell (ticked.trans (same.time.trans ticked'.symm)) rfl)

theorem keptThrough_sameText (clocked : surroundings.host.Clocked clock answer tick) :
    (sameText clock).KeptThrough surroundings where
  consult := by
    intro one other same
    rcases clocked.consults one with ⟨state, ticked, steps⟩
    rcases clocked.consults other with ⟨state', ticked', steps'⟩
    rw [same.time] at ticked steps
    rw [steps, steps']
    have told (granted : Bool) : Progress.SameText clock
        ⟨one.output, state, one.journal.push (.asked granted)⟩
        ⟨other.output, state', other.journal.push (.asked granted)⟩ :=
      same.tell (ticked.trans ticked'.symm) rfl
    cases answer (clock other.host) with
    | true => exact .ok (told true)
    | false => exact .error (told false)
  writeRaw text := by
    intro one other same
    refine .ok ⟨?_, ?_, same.time, same.loads⟩
    · exact (Output.encoding_appendRaw _ _).trans
        (same.encoding.trans (Output.encoding_appendRaw _ _).symm)
    · simp only [Output.text_appendRaw, same.text]
  write text := by
    intro one other same
    refine .ok ⟨?_, ?_, same.time, same.loads⟩
    · exact (Output.encoding_append _ _).trans
        (same.encoding.trans (Output.encoding_append _ _).symm)
    · exact Output.text_append_congr same.encoding same.text text
  fails one other same := same
  loaded path := by
    intro one other same
    exact .ok (same.tell same.time rfl)
  unresolved path includer includer' error := by
    intro one other same
    exact .ok (same.tell same.time rfl)
  inspect template := alike_inspect clocked template template
  apart := by
    intro first second alike one other same
    refine alike.apart ⟨same.encoding, rfl, same.time, same.loads⟩ ?_ ?_
    · intro inner met alike
      refine ⟨same.encoding, ?_, alike.time, alike.loads⟩
      simp only [Output.text_splice, same.text, alike.text]
    · intro inner met alike
      exact ⟨same.encoding, same.text, alike.time, alike.loads⟩

theorem alike_trans {first second third : Rendering State Unit}
    (one : (sameText clock).Alike first second) (other : (sameText clock).Alike second third) :
    (sameText clock).Alike first third := by
  intro progress progress' same
  rcases one.ok_or_error same with
    ⟨reached, met, steps, others, alike⟩ | ⟨error, reached, met, steps, others, alike⟩
  · rcases other.ok_or_error (Progress.SameText.refl progress') with
      ⟨met', last, steps', others', alike'⟩ | ⟨error, met', last, steps', others', alike'⟩
    · cases others.symm.trans steps'
      rw [steps, others']
      exact .ok (alike.trans alike')
    · cases others.symm.trans steps'
  · rcases other.ok_or_error (Progress.SameText.refl progress') with
      ⟨met', last, steps', others', alike'⟩ | ⟨error, met', last, steps', others', alike'⟩
    · cases others.symm.trans steps'
    · cases others.symm.trans steps'
      rw [steps, others']
      exact .error (alike.trans alike')

theorem alike_symm {first second : Rendering State Unit}
    (alike : (sameText clock).Alike first second) : (sameText clock).Alike second first := by
  intro progress progress' same
  rcases alike.ok_or_error same.symm with
    ⟨reached, met, steps, others, alike⟩ | ⟨error, reached, met, steps, others, alike⟩
  · rw [steps, others]
    exact .ok alike.symm
  · rw [steps, others]
    exact .error alike.symm

/-- Two texts are written as their concatenation is. -/
theorem alike_joined (text more : String) :
    (sameText clock).Alike (writeRaw text >>= fun _ => writeRaw more)
      (writeRaw (text ++ more)) := by
  intro one other same
  refine .ok ⟨?_, ?_, same.time, same.loads⟩
  · simp only [Output.encoding_appendRaw, same.encoding]
  · simp only [Output.text_appendRaw, same.text, String.append_assoc]

section Essence

variable {including including' : String → Scopes Lambda → Rendering State Unit}

/-- A text in front of a step, and the same text in front of the forest that the step is
like, where it may be joined with the first text of the forest. -/
theorem alike_joinText (clocked : surroundings.host.Clocked clock answer tick)
    (own : (sameText clock).Includes including' including') (text : String)
    {step : Rendering State Unit} {forest : Forest} {scopes : Scopes Lambda}
    (free : scopes.LambdaFree)
    (further : (sameText clock).Alike step
      (Node.renderForest surroundings including' scopes forest)) :
    (sameText clock).Alike (writeRaw text >>= fun _ => step)
      (Node.renderForest surroundings including' scopes (Node.joinText text forest)) := by
  have kept := (keptThrough_sameText clocked).toKept
  have apart := (kept.writeRaw text).andThen further
  cases forest with
  | nil => exact apart
  | cons node rest =>
      cases node with
      | plain more markers =>
          -- The step is like one that begins with the second text, so both are written in a row.
          refine alike_trans apart ?_
          rw [Node.joinText, Node.renderForest, Node.renderForest, Node.render, Node.render,
            ← bind_assoc]
          exact (alike_joined text more).andThen (kept.forest_same own rest free)
      | leaf kind name body markers => exact apart
      | group kind name body markers children closeBody closeMarkers => exact apart

mutual
theorem alike_essence (clocked : surroundings.host.Clocked clock answer tick)
    (own : (sameText clock).Includes including' including')
    (includes : (sameText clock).Includes including including') (node : Node)
    {step : Rendering State Unit} {rest : Forest} {scopes : Scopes Lambda}
    (free : scopes.LambdaFree)
    (further : (sameText clock).Alike step
      (Node.renderForest surroundings including' scopes rest)) :
    (sameText clock).Alike (node.render surroundings including scopes >>= fun _ => step)
      (Node.renderForest surroundings including' scopes (node.essence rest)) := by
  have kept := (keptThrough_sameText clocked).toKept
  cases node with
  | plain text markers =>
      rw [Node.render, Node.essence]
      exact alike_joinText clocked own text free further
  | leaf kind name body markers =>
      cases kind with
      | comment | pragma | redelimit =>
          rw [Node.render, Node.essence, pure_bind]
          exact further
      | name =>
          rw [Node.render, Node.essence, Node.renderForest, Node.render]
          exact (kept.write _).andThen further
      | unescaped | triple =>
          rw [Node.render, Node.essence, Node.renderForest, Node.render]
          exact (kept.writeRaw _).andThen further
      | inclusion =>
          rw [Node.render, Node.essence, Node.renderForest, Node.render]
          exact (kept.consult.andThen (includes name free)).andThen further
  | group kind name body markers children closeBody closeMarkers =>
      rw [Node.essence, Node.renderForest]
      refine Alike.andThen ?_ further
      refine kept.group (Scopes.kinship_same fun _ => True) ⟨rfl, free, trivial⟩ kind name ?_
      rintro inner _ ⟨rfl, free, -⟩
      exact alike_forestEssence clocked own includes children free

/-- A forest renders as its essence does. -/
theorem alike_forestEssence (clocked : surroundings.host.Clocked clock answer tick)
    (own : (sameText clock).Includes including' including')
    (includes : (sameText clock).Includes including including') (forest : List Node)
    {scopes : Scopes Lambda} (free : scopes.LambdaFree) :
    (sameText clock).Alike (Node.renderForest surroundings including scopes forest)
      (Node.renderForest surroundings including' scopes (Node.forestEssence forest)) := by
  cases forest with
  | nil =>
      rw [Node.forestEssence, Node.renderForest, Node.renderForest]
      exact alike_pure
  | cons node rest =>
      rw [Node.forestEssence, Node.renderForest]
      exact alike_essence clocked own includes node free
        (alike_forestEssence clocked own includes rest free)
end

end Essence

end Likeness

namespace Template

/-- Templates of the same essence render to the same text, with the same loads and to the
same end. Their names, marks, silent tags and the blanks in their tags do not show. -/
theorem render_of_essence_eq (surroundings : Surroundings State Lambda) {Clock : Type}
    {clock : State → Clock} {answer : Clock → Bool} {tick : Clock → Clock}
    (clocked : surroundings.host.Clocked clock answer tick)
    {template other : Template} (same : template.essence = other.essence)
    {scopes : Scopes Lambda} (free : scopes.LambdaFree) (progress : Progress State) :
    let one := template.render surroundings scopes
    let two := other.render surroundings scopes
    one.outcome progress = two.outcome progress ∧
      (one.reached progress).output.text = (two.reached progress).output.text ∧
      (one.reached progress).loads = (two.reached progress).loads := by
  have includes (source : Template) := (keptThrough_sameText clocked).includes
    surroundings.depthLimit source.name template.name
  have essence (source : Template) :=
    alike_forestEssence clocked (includes template) (includes source) source.forest free
  have first := essence template
  rw [← Template.essence, same] at first
  have forests := alike_trans first (alike_symm (essence other))
  have alike : (sameText clock).Alike (template.render surroundings scopes)
      (other.render surroundings scopes) :=
    (alike_inspect clocked template other).andThen forests
  rcases alike.outcome_and_reached (Progress.SameText.refl progress) with ⟨ends, reached⟩
  exact ⟨ends, reached.text, reached.loads⟩

/-- A comment divides a text, and other marks are in force behind it. -/
theorem render_of_essence_eq_divided :
    let bars : Markers := ⟨['|'], ['|'], by decide, by decide⟩
    let page : Template := ⟨"page", [.plain "a" .standard, .leaf .comment "c" "!c" .standard,
      .plain "b" .standard, .leaf .triple "n" "\x7bn\x7d" .standard]⟩
    let other : Template := ⟨"other", [.leaf .redelimit "| |" "=| |=" .standard, .plain "ab" bars,
      .leaf .unescaped "n" "& n " bars]⟩
    let scopes : Scopes Unit := .root [("n", .text "<")]
    page.essence = other.essence ∧
      ((page.render .italic scopes).reached ⟨.empty .html, (), #[]⟩).output.text = "ab<" ∧
      ((other.render .italic scopes).reached ⟨.empty .html, (), #[]⟩).output.text = "ab<" := by
  intro bars page other scopes
  have same : page.essence = other.essence := rfl
  have written : ((page.render .italic scopes).reached ⟨.empty .html, (), #[]⟩).output.text =
      "ab<" := by decide +kernel
  have free : scopes.LambdaFree := Scopes.lambdaFree_root rfl
  have clocked : Surroundings.italic.host.Clocked (fun _ => ()) (fun _ => true) id :=
    ⟨fun _ _ => ⟨rfl, rfl⟩, fun _ => ⟨rfl, rfl⟩⟩
  have rendered := render_of_essence_eq .italic clocked same free ⟨.empty .html, (), #[]⟩
  exact ⟨same, written, rendered.2.1.symm.trans written⟩

end Template

end Mustache
