import Mustache.Host
import Mustache.Store

namespace Mustache

/-! Rendering walks the tree of a template and writes its output. All that can
be seen of it from outside is in its progress: what it wrote, the state of the
host, and a journal of its dealings with host and store. -/

inductive Event where
  /-- The host was asked for further names: those bound before, the file, and the
  number of bytes written. -/
  | valued (names : List String) (file : Option Path) (written : Nat)
  | inspected (template : Template)
  | asked (granted : Bool)
  | loaded (path : Path)
  /-- An included template could not be had; it renders as nothing. -/
  | unresolved (path : Path) (includer : String) (error : LoadError)

structure Progress (State : Type) where
  output : Output
  host : State
  journal : Array Event

/-- A step of a rendering. A step that fails keeps the progress made. -/
abbrev Rendering (State : Type) := EStateM Error (Progress State)

/-- What a rendering takes place in. -/
structure Surroundings (State Lambda : Type) where
  host : Host State Lambda
  store : Store
  /-- The text that a lambda makes of the text of its section. -/
  call : Lambda → String → Scopes Lambda → String
  /-- Extension of the names of included templates; the empty one adds nothing. -/
  extension : String
  /-- Number of templates that may be included one inside the other. -/
  depthLimit : Nat

namespace Rendering

variable {State Lambda : Type}

def note (event : Event) : Rendering State Unit :=
  modify fun progress => { progress with journal := progress.journal.push event }

def writeRaw (text : String) : Rendering State Unit :=
  modify fun progress => { progress with output := progress.output.appendRaw text }

def write (text : String) : Rendering State Unit :=
  modify fun progress => { progress with output := progress.output.append text }

/-- Go on only if the host lets the rendering proceed. -/
def consult (host : Host State Lambda) : Rendering State Unit := do
  let (granted, state) := host.proceed (← get).host
  modify fun progress => { progress with host := state }
  note (.asked granted)
  unless granted do throw .interrupted

/-- Go on only if the host accepts the pragmas of a template. -/
def inspect (host : Host State Lambda) (template : Template) : Rendering State Unit := do
  let (verdict, state) := host.inspect template (← get).host
  modify fun progress => { progress with host := state }
  note (.inspected template)
  match verdict with
  | .ok () => return
  | .error error => throw error

def load (store : Store) (path : Path) : Rendering State (Except LoadError String) := do
  note (.loaded path)
  return store.readText path

/-- Write to a fork of the output, and add what was written if the step ends
well. -/
def apart (step : Rendering State Unit) : Rendering State Unit := fun progress =>
  match step { progress with output := progress.output.fork } with
  | .ok () inner => .ok () { inner with output := progress.output.splice inner.output }
  | .error error inner => .error error { inner with output := progress.output }

def forEach {α : Type} (step : α → Rendering State Unit) : List α → Rendering State Unit
  | [] => pure ()
  | item :: rest => do
    step item
    forEach step rest

end Rendering

open Rendering

variable {State Lambda : Type}

/-- The text that a value stands for. A lambda gets no section text. -/
def Surroundings.textOf (surroundings : Surroundings State Lambda) (value : Value Lambda)
    (scopes : Scopes Lambda) : String :=
  match value with
  | .lambda lambda => surroundings.call lambda "" scopes
  | other => other.output

/-! ## The walk

An inclusion is rendered by the function `including`, which gets the name that
is included and the scopes at that place. -/

mutual
def Node.render (surroundings : Surroundings State Lambda)
    (including : String → Scopes Lambda → Rendering State Unit) (scopes : Scopes Lambda) :
    Node → Rendering State Unit
  | .plain text _ => writeRaw text
  | .leaf .name name _ _ => write (surroundings.textOf (scopes.lookup name) scopes)
  | .leaf .unescaped name _ _ => writeRaw (surroundings.textOf (scopes.lookup name) scopes)
  | .leaf .triple name _ _ => writeRaw (surroundings.textOf (scopes.lookup name) scopes)
  | .leaf .comment _ _ _ => pure ()
  | .leaf .pragma _ _ _ => pure ()
  | .leaf .redelimit _ _ _ => pure ()
  | .leaf .inclusion name _ _ => do
    consult surroundings.host
    including name scopes
  | .group .inverted name _ _ children _ _ => do
    consult surroundings.host
    if (scopes.lookup name).isFalsy then
      Node.renderForest surroundings including scopes children
  | .group .section name body markers children closeBody closeMarkers => do
    consult surroundings.host
    match scopes.lookup name with
    | .map entries =>
      unless entries.isEmpty do
        Node.renderForest surroundings including (scopes.bind entries) children
    | .list items =>
      forEach
        (fun item => Node.renderForest surroundings including (scopes.bindElement item) children)
        items
    | .lambda lambda =>
      let whole : Node := .group .section name body markers children closeBody closeMarkers
      writeRaw (surroundings.call lambda whole.toSource scopes)
    | value =>
      if value.isTruthy then Node.renderForest surroundings including scopes.child children

def Node.renderForest (surroundings : Surroundings State Lambda)
    (including : String → Scopes Lambda → Rendering State Unit) (scopes : Scopes Lambda) :
    List Node → Rendering State Unit
  | [] => pure ()
  | node :: rest => do
    Node.render surroundings including scopes node
    Node.renderForest surroundings including scopes rest
end

namespace Template

/-- Render an included template. `depth` more templates may be included one inside
the other, this one among them; `includer` is the name of the template around it.
A template that cannot be had renders as nothing. -/
def renderInclusion (surroundings : Surroundings State Lambda) :
    (depth : Nat) → (includer name : String) → (scopes : Scopes Lambda) → Rendering State Unit
  | 0, _, name, scopes =>
    throw (.tooDeep surroundings.depthLimit
      (.ofInclusion scopes.currentFile name surroundings.extension))
  | depth + 1, includer, name, scopes => do
    let path := Path.ofInclusion scopes.currentFile name surroundings.extension
    match ← load surroundings.store path with
    | .error error => note (.unresolved path includer error)
    | .ok text =>
      match parse path.text text with
      | .error fault => throw (.fault fault)
      | .ok template => do
        inspect surroundings.host template
        apart (Node.renderForest surroundings
          (renderInclusion surroundings depth template.name) (scopes.enterFile path)
          template.forest)

def render (surroundings : Surroundings State Lambda) (template : Template)
    (scopes : Scopes Lambda) : Rendering State Unit := do
  inspect surroundings.host template
  Node.renderForest surroundings
    (renderInclusion surroundings surroundings.depthLimit template.name) scopes template.forest

/-- Extension of template files where none is configured. -/
def standardExtension : String := "mustache"

/-- Depth of inclusions where none is configured. -/
def standardDepth : Nat := 32

/-- Render for a permissive host and with no other templates to include. -/
def renderAlone (call : Lambda → String → Scopes Lambda → String) (template : Template)
    (scopes : Scopes Lambda) : Rendering Unit Unit :=
  template.render ⟨.permissive, .empty, call, standardExtension, standardDepth⟩ scopes

/-- The output of `renderAlone`, encoded for HTML. -/
def renderToString (call : Lambda → String → Scopes Lambda → String) (template : Template)
    (scopes : Scopes Lambda) : Except Error String :=
  match (template.renderAlone call scopes).run ⟨.empty .html, (), #[]⟩ with
  | .ok () progress => .ok progress.output.text
  | .error error _ => .error error

end Template

end Mustache
