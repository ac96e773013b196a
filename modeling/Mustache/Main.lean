import Mustache.CommandLine
import Mustache.Disk.Snapshot
import Mustache.Web.Response
import Std.Http.Server

namespace Mustache.Program

/-! The program around the library. It looks at the disk until a command asks for
nothing unknown, and then does what the command leaves to do. -/

/-! ## Looking at the disk -/

def diskErrorOf : IO.Error → DiskError
  | .noFileOrDirectory .. => .missing
  | .inappropriateType .. => .notDirectory
  | error => .refused (toString error)

def lookAt (path : Path) : IO (Except DiskError ByteArray) := do
  try
    let place ← IO.FS.realPath path.text
    if ← place.isDir then return .error .isDirectory
    return .ok (← IO.FS.readBinFile place)
  catch error => return .error (diskErrorOf error)

/-- The ways to the files below a directory. A directory that is entered already
is not entered again. -/
partial def listBelow (entered : List String) (path : String) : IO (List (List String)) := do
  try
    let place ← IO.FS.realPath path
    if !(← place.isDir) then return [[]]
    if entered.contains place.toString then return []
    let names := ((← place.readDir).map (·.fileName)).toList.mergeSort
    let ways ← names.mapM fun name => do
      let inner ← listBelow (place.toString :: entered) (Path.join ⟨path⟩ name).text
      return inner.map (name :: ·)
    return ways.flatten
  catch _ => return []

def look (snapshot : Snapshot) : Question → IO Snapshot
  | .read path => return snapshot.addRead path (← lookAt path)
  | .filesBelow path => return snapshot.addListing path (← listBelow [] path.text)

/-- Work on snapshots of the disk until one of them leaves no question open. -/
partial def settle {α : Type} (work : Disk → α × List Question) (snapshot : Snapshot) : IO α := do
  let (result, questions) := work snapshot.disk
  match snapshot.openQuestions questions with
  | [] => return result
  | unknown => settle work (← unknown.foldlM look snapshot)

/-! ## Serving -/

structure Service where
  workspace : Workspace
  data : Bindings Empty
  seconds : Nat

/-- The clock is read once for each request: only a limit of no seconds is over before
the rendering ends. -/
def Service.respond? (service : Service) (request : Web.Request) : IO (Option Web.Response) := do
  let now ← IO.monoNanosNow
  let limit := service.seconds * Number.tenTo 9
  settle (fun disk =>
    match Web.answer? (service.workspace.engine disk) Empty.elim service.data (fun _ => now) limit
      request with
    | none => (none, [])
    | some (response, journal) =>
      (some response, Question.ofJournal service.workspace.templateDirectory journal)) .empty

open Std.Http Std.Async

def statusOf (response : Web.Response) : Status :=
  if response.status == 200 then .ok
  else if response.status == 404 then .notFound
  else .internalServerError

instance : Server.Handler Service where
  ResponseBody := Body.Full
  onRequest service request := do
    let some response ← service.respond? (Web.Request.ofTarget (toString request.line.uri))
      | throw (.userError "no time of the clock is the end of the time limit")
    let builder := Response.withStatus (statusOf response)
    let builder := (builder.header? "content-type" response.contentType).getD builder
    builder.fromBytes response.body.toUTF8

def socketOf (address : Web.Address) (port : Nat) : Std.Net.SocketAddress :=
  match address with
  | .short bytes =>
    .v4 ⟨⟨Vector.ofFn fun index => .ofNat (bytes.getD index.val 0)⟩, .ofNat port⟩
  | .long groups =>
    .v6 ⟨⟨Vector.ofFn fun index => .ofNat (groups.getD index.val 0)⟩, .ofNat port⟩

def serve (service : Service) (address : Web.Address) (port : Nat) : IO Unit :=
  Async.block do
    let server ← Server.serve (socketOf address port) service
    server.waitShutdown

/-! ## Commands -/

def write (path : Path) (text : String) : IO Unit := do
  match path.parent? with
  | some parent => if !parent.text.isEmpty then IO.FS.createDirAll parent.text
  | none => pure ()
  IO.FS.writeFile path.text text

def perform (effect : CommandLine.Effect) : IO Unit :=
  match effect with
  | .nothing => pure ()
  | .write path text => write path text
  | .serve workspace data address port seconds => serve ⟨workspace, data, seconds⟩ address port

/-- Print what a command prints and do what it leaves to do. The result is its failure. -/
def finish (outcome : CommandLine.Outcome) : IO (Option Failure) := do
  IO.print outcome.printed
  (← IO.getStdout).flush
  if outcome.failure.isNone then perform outcome.effect
  return outcome.failure

def outcomeOf (invocation : CommandLine.Invocation) (current : Path) : IO CommandLine.Outcome :=
  settle (fun disk => invocation.run disk current) .empty

/-- Render again whenever something else comes out of it. -/
partial def watch (invocation : CommandLine.Invocation) (current : Path)
    (last : CommandLine.Outcome) : IO Unit := do
  IO.sleep 300
  let next ← outcomeOf invocation current
  if next.text != last.text then
    try
      if let some failure ← finish next then
        IO.eprintln ("Render failed: " ++ failure.message)
    catch error => IO.eprintln ("Render failed: " ++ toString error)
  watch invocation current next

/-- The result is the code with which the program ends. -/
def run (invocation : CommandLine.Invocation) : IO UInt32 := do
  let current : Path := ⟨(← IO.currentDir).toString⟩
  let outcome ← outcomeOf invocation current
  if let some failure ← finish outcome then
    IO.eprintln ("Error: " ++ failure.message)
    return .ofNat failure.exitCode
  if invocation.watches then watch invocation current outcome
  return 0

end Mustache.Program

open Mustache in
def main (arguments : List String) : IO UInt32 := do
  match CommandLine.read arguments with
  | .error .help =>
    IO.print CommandLine.usage
    return 0
  | .error .version =>
    IO.print CommandLine.versionLine
    return 0
  | .error .misuse =>
    IO.eprint CommandLine.usage
    return 2
  | .ok invocation =>
    try
      Program.run invocation
    catch error =>
      IO.eprintln ("Error: " ++ toString error)
      return 1
