import Mustache.Proofs.Walk.Rendering

namespace Mustache

/-! What a host is asked in the course of a rendering. Its state changes with the calls
and with nothing else, so the acts of a walk tell the state at its end. -/

variable {State Lambda : Type}

namespace Host

inductive Call (Lambda : Type) where
  | values (scopes : Scopes Lambda) (output : Output)
  | inspect (template : Template)
  | proceed

/-- The template that the host is asked about. -/
def Call.template? : Call Lambda → Option Template
  | .inspect template => some template
  | _ => none

variable (host : Host State Lambda)

/-- The state of the host behind a call. -/
def behind (state : State) : Call Lambda → State
  | .values scopes output => (host.values scopes output state).2
  | .inspect template => (host.inspect template state).2
  | .proceed => (host.proceed state).2

/-- The state of the host behind some calls. -/
def behindAll (state : State) (calls : List (Call Lambda)) : State :=
  calls.foldl host.behind state

theorem behindAll_cons (state : State) (call : Call Lambda) (calls : List (Call Lambda)) :
    host.behindAll state (call :: calls) = host.behindAll (host.behind state call) calls :=
  rfl

theorem behindAll_append (state : State) (calls more : List (Call Lambda)) :
    host.behindAll state (calls ++ more) = host.behindAll (host.behindAll state calls) more :=
  List.foldl_append

end Host

namespace Walk

/-- The call of the host that an act tells. -/
def Act.call? : Act Lambda → Option (Host.Call Lambda)
  | .asked _ => some .proceed
  | .inspected template _ => some (.inspect template)
  | _ => none

def calls (acts : List (Act Lambda)) : List (Host.Call Lambda) :=
  acts.filterMap Act.call?

/-- The journal tells the templates of the calls. -/
theorem filterMap_template?_calls (acts : List (Act Lambda)) :
    (calls acts).filterMap Host.Call.template? = (events acts).filterMap Event.template? := by
  rw [calls, events, List.filterMap_filterMap, List.filterMap_filterMap]
  congr 1
  funext act
  cases act <;> rfl

def Turn.host : Turn State Lambda → State
  | .goOn stage => stage.host
  | .stop _ host => host

section Steps

variable {surroundings : Surroundings State Lambda} {encoding : Encoding}
  {stage : Stage State Lambda} {acts : List (Act Lambda)} {turn : Turn State Lambda}

theorem Performs.host_eq {task : Task Lambda}
    (performs : Performs surroundings encoding stage task acts turn) :
    turn.host = surroundings.host.behindAll stage.host (calls acts) := by
  cases performs with
  | writes effect =>
      unfold written
      split <;> rfl
  | opens | tooDeep | unresolved | faulty => rfl
  | denied effect shallow found parsed verdict | enters effect shallow found parsed verdict =>
      exact (congrArg Prod.snd verdict).symm

theorem Steps.host_eq (steps : Steps surroundings encoding stage acts turn) :
    turn.host = surroundings.host.behindAll stage.host (calls acts) := by
  cases steps with
  | done | leave => rfl
  | quiet silent performs => exact performs.host_eq
  | refused consults answer => exact (congrArg Prod.snd answer).symm
  | granted consults answer performs =>
      rw [performs.host_eq]
      exact congrArg (surroundings.host.behindAll · _) (congrArg Prod.snd answer).symm

theorem Runs.host_eq {result : Except Error Unit} {host : State}
    (runs : Runs surroundings encoding turn acts result host) :
    host = surroundings.host.behindAll turn.host (calls acts) := by
  induction runs with
  | stop => rfl
  | goOn steps runs induction =>
      rw [induction, steps.host_eq, calls, calls, calls, List.filterMap_append,
        Host.behindAll_append]
      rfl

end Steps

end Walk

open Walk

/-- The host at the end of a walk is what its calls in the course of the walk make of it. -/
theorem Template.Walked.host_eq {surroundings : Surroundings State Lambda} {encoding : Encoding}
    {template : Template} {scopes : Scopes Lambda} {state host : State}
    {acts : List (Act Lambda)} {result : Except Error Unit}
    (walked : template.Walked surroundings encoding scopes state acts result host) :
    host = surroundings.host.behindAll state (calls acts) := by
  cases walked with
  | denied verdict => exact (congrArg Prod.snd verdict).symm
  | entered verdict runs =>
      rw [runs.host_eq]
      exact congrArg (surroundings.host.behindAll · _) (congrArg Prod.snd verdict).symm

end Mustache
