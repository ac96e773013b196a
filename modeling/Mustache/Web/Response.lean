import Mustache.Engine
import Mustache.Web.Request

namespace Mustache.Web

/-! Answers to web requests. A request for a path is answered by the template of
that name. -/

structure Response where
  status : Nat
  contentType : String
  body : String
deriving DecidableEq, Repr

/-- The template of a request path, without the slashes at its start. A directory
stands for its index. A path with a part `..` has no template. -/
def templateName? (path : String) : Option String :=
  let clean := path.toList.dropWhile (· == '/')
  if (Text.pieces '/' clean).contains ['.', '.'] then none
  else if clean.isEmpty then some "index"
  else if clean.getLast? == some '/' then some (String.ofList (clean ++ "index".toList))
  else some (String.ofList clean)

namespace Response

def plain (status : Nat) (body : String) : Response :=
  ⟨status, "text/plain; charset=utf-8", body⟩

def missing : Response :=
  plain 404 "Not found"

/-- The answer where the rendering broke off. -/
def broken : Response :=
  plain 500 "Server error"

/-- A header value holds no control characters but tabs. -/
def isHeaderValue (text : String) : Bool :=
  text.toList.all fun character =>
    character == '\t' || (' ' ≤ character && character != '\x7f')

def rendered (contentType body : String) : Response :=
  if isHeaderValue contentType then ⟨200, contentType, body⟩
  else plain 500 "failed to parse header value"

/-- The answer that tells an error. Only a missing root template is not found; a
missing template that another includes is no error. -/
def ofError : Error → Response
  | .load (.notFound _) => missing
  | error => plain 500 error.message

end Response

def Request.ofTarget (target : String) : Request :=
  match Text.cutString? '?' target with
  | some (path, query) => ⟨path, query⟩
  | none => ⟨target, ""⟩

/-- Answer a request by rendering the template of its path, within a limit of time. The
journal of the rendering goes with the answer. `clock` is what the clock tells each time
it is read. A limit of which the clock cannot tell the end leaves the request without an
answer; a rendering that breaks off does not. -/
def answer? {Lambda : Type} (engine : Engine) (call : Lambda → String → Scopes Lambda → String)
    (data : Bindings Lambda) (clock : Nat → Nat) (limit : Nat) (request : Request) :
    Option (Response × Array Event) := do
  match templateName? request.path with
  | none => return (.missing, #[])
  | some name =>
    let deadline ← Deadline.after? (clock 0) limit
    match engine.runPath? (request.host (deadline.inTime clock)) call name data .initial with
    | none => return (.broken, #[])
    | some (.ok body, progress) =>
      return (.rendered progress.host.chosenContentType body, progress.journal)
    | some (.error error, progress) => return (.ofError error, progress.journal)

def respond? {Lambda : Type} (engine : Engine) (call : Lambda → String → Scopes Lambda → String)
    (data : Bindings Lambda) (clock : Nat → Nat) (limit : Nat) (request : Request) :
    Option Response :=
  (answer? engine call data clock limit request).map Prod.fst

end Mustache.Web
