import Mustache.Settings

namespace Mustache

/-! An engine renders the templates of one store under one group of settings. -/

structure Engine where
  settings : Settings
  store : Store
  encoding : Encoding

namespace Engine

variable {State Lambda : Type}

def ofStore (settings : Settings) (store : Store) : Engine :=
  ⟨settings, store, settings.escaping.encoding⟩

def withEncoding (engine : Engine) (encoding : Encoding) : Engine :=
  { engine with encoding }

def surroundings (engine : Engine) (host : Host State Lambda)
    (call : Lambda → String → Scopes Lambda → String) : Surroundings State Lambda :=
  ⟨host, engine.store, call, engine.settings.extension, engine.settings.depthLimit⟩

/-- Read a template by its name, with the path of its file. -/
def load (engine : Engine) (name : String) : Rendering State (Path × Template) := do
  let path := engine.settings.templateFile name
  match ← Rendering.load engine.store path with
  | .error error => throw (.load error)
  | .ok text =>
    match Template.parse path.text text with
    | .error fault => throw (.fault fault)
    | .ok template => return (path, template)

/-- Ask the host for further names, which never replace those bound already. -/
def addValues (host : Host State Lambda) (scopes : Scopes Lambda) :
    Rendering State (Scopes Lambda) := do
  let (answer, state) := host.values scopes (← get).output (← get).host
  let written := (← get).output.byteLength
  modify fun progress => { progress with host := state }
  Rendering.note (.valued scopes.inner.locals.names scopes.currentFile written)
  match answer with
  | .error error => throw error
  | .ok values => return scopes.extend values

def renderIn (engine : Engine) (host : Host State Lambda)
    (call : Lambda → String → Scopes Lambda → String) (template : Template)
    (scopes : Scopes Lambda) : Rendering State Unit := do
  let scopes ← addValues host scopes
  template.render (engine.surroundings host call) scopes

/-- Render a template; what it includes is looked for at the top of the store. -/
def render (engine : Engine) (host : Host State Lambda)
    (call : Lambda → String → Scopes Lambda → String) (template : Template)
    (data : Bindings Lambda) : Rendering State Unit :=
  engine.renderIn host call template (.root data)

/-- Read and render a template by its name; what it includes is looked for next
to its file. -/
def renderPath (engine : Engine) (host : Host State Lambda)
    (call : Lambda → String → Scopes Lambda → String) (name : String)
    (data : Bindings Lambda) : Rendering State Unit := do
  let (path, template) ← engine.load name
  engine.renderIn host call template ((Scopes.root data).atFile path)

/-- Run a rendering from its start: its text or its error, and how far it got. -/
def run (engine : Engine) (rendering : Rendering State Unit) (state : State) :
    Except Error String × Progress State :=
  match rendering.run ⟨.empty engine.encoding, state, #[]⟩ with
  | .ok () progress => (.ok progress.output.text, progress)
  | .error error progress => (.error error, progress)

/-- Run the rendering of a template by its name from its start. Nothing comes of it
where the file of the template cannot be told. -/
def runPath? (engine : Engine) (host : Host State Lambda)
    (call : Lambda → String → Scopes Lambda → String) (name : String)
    (data : Bindings Lambda) (state : State) : Option (Except Error String × Progress State) :=
  (engine.settings.templateFile? name).map fun _ =>
    engine.run (engine.renderPath host call name data) state

end Engine

end Mustache
