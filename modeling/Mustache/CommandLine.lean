import Mustache.Check
import Mustache.CommandLine.Words
import Mustache.Web.Address

namespace Mustache.CommandLine

/-! What the commands of a command line do. -/

/-- What is left to do for the world outside. -/
inductive Effect where
  | nothing
  | write (path : Path) (text : String)
  /-- Answer requests with the templates of a workspace. -/
  | serve (workspace : Workspace) (data : Bindings Empty) (address : Web.Address) (port : Nat)
    (seconds : Nat)

structure Outcome where
  printed : String
  effect : Effect
  failure : Option Failure

/-- The text that a command makes, wherever it goes. -/
def Outcome.text (outcome : Outcome) : String :=
  match outcome.failure, outcome.effect with
  | some failure, _ => failure.message
  | none, .write _ text => text
  | none, _ => outcome.printed

def Outcome.print (text : String) : Outcome :=
  ⟨text, .nothing, none⟩

def programName : String := "mustache-rs"

def programVersion : String := "0.1.0"

def versionLine : String :=
  programName ++ " " ++ programVersion ++ "\n"

def usage : String :=
  "Usage: " ++ programName ++ " [--cwd <DIR>] [--config <FILE>] <COMMAND>\n\n" ++
  "  render <TEMPLATE> [--data <FILE>] [--output <FILE>] [--watch]\n" ++
  "  check [<DIR>]\n" ++
  "  serve [--port <PORT>] [--ip <IP>] [--data <FILE>] [--timeout <SECONDS>]\n" ++
  "  version\n"

/-- The workspace to work in. `current` is the current directory. -/
def Invocation.workspace (invocation : Invocation) (disk : Disk) (current : Path) :
    Work Workspace :=
  Workspace.load disk (invocation.base.getD current) invocation.settings

def Invocation.work (invocation : Invocation) (disk : Disk) (current : Path) : Work Outcome := do
  match invocation.command with
  | .version => return .print (programName ++ " version " ++ programVersion ++ "\n")
  | .render template data output _ =>
    let workspace ← invocation.workspace disk current
    let text ← workspace.render disk template data
    match output with
    | none => return .print text
    | some path => return ⟨"", .write (workspace.base.join path.text) text, none⟩
  | .check directory =>
    let workspace ← invocation.workspace disk current
    let checked ← workspace.check disk directory
    return ⟨Checked.report checked, .nothing, Checked.verdict? checked⟩
  | .serve port machine data seconds =>
    let workspace ← invocation.workspace disk current
    let data ← workspace.loadData disk data
    match Web.Address.read? machine with
    | none => throw .badAddress
    | some address =>
      let place := machine ++ ":" ++ toString port
      return ⟨"Server running at http://" ++ place ++ "\nPress Ctrl+C to stop.\n",
        .serve workspace data address port seconds, none⟩

/-- Whether a command goes on whenever its files change. -/
def Invocation.watches (invocation : Invocation) : Bool :=
  match invocation.command with
  | .render _ _ _ watch => watch
  | _ => false

/-- The outcome of a command, and the questions that it put to the disk. -/
def Invocation.run (invocation : Invocation) (disk : Disk) (current : Path) :
    Outcome × List Question :=
  match (invocation.work disk current).run [] with
  | .ok outcome questions => (outcome, questions)
  | .error failure questions => (⟨"", .nothing, some failure⟩, questions)

end Mustache.CommandLine
