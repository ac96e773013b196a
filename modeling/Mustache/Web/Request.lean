import Mustache.Deadline
import Mustache.Host
import Mustache.Web.Query

namespace Mustache.Web

/-! The host of one web request. It shows the request to the template and lets
pragmas choose the content type of the answer. -/

structure Request where
  path : String
  query : String
deriving DecidableEq, Repr

structure RequestState where
  /-- The content type that a pragma asked for first. -/
  contentType : Option String
  /-- How often it was asked whether there is time left. -/
  asked : Nat
deriving DecidableEq, Repr

/-- Content type of an answer for which no pragma asks for another. -/
def standardContentType : String := "text/html; charset=utf-8"

/-- What templates may require by a pragma. -/
def capabilities : List String := ["request"]

namespace RequestState

def initial : RequestState :=
  ⟨none, 0⟩

def chosenContentType (state : RequestState) : String :=
  state.contentType.getD standardContentType

/-- Read pragmas in order. A pragma that requires what is not provided ends the
reading before its own content type counts. The result is that requirement. -/
def readPragmas (state : RequestState) : List Pragma → Option String × RequestState
  | [] => (none, state)
  | pragma :: rest =>
    let refused := (pragma.find? "require").filter (!capabilities.contains ·)
    match refused with
    | some capability => (some capability, state)
    | none =>
      let chosen := state.contentType.or (pragma.find? "content-type")
      readPragmas { state with contentType := chosen } rest

end RequestState

namespace Request

variable {Lambda : Type}

def parameters (request : Request) : Bindings Lambda :=
  (parseQuery request.query.toList).mapValues .text

/-- The name `request`, with the path, the query and its parameters. -/
def bindings (request : Request) : Bindings Lambda :=
  [("request", .map [("path", .text request.path), ("query", .text request.query),
    ("params", .map request.parameters)])]

def refusal (template : Template) (capability : String) : Error :=
  .refused (template.name ++ " requires capability " ++ Text.quoted capability ++
    ", which this server does not provide")

/-- The host of a request. `inTime` tells, for each time it is asked, whether
there is time left. -/
def host (request : Request) (inTime : Nat → Bool) : Host RequestState Lambda where
  values _ _ state := (.ok request.bindings, state)
  inspect template state :=
    match state.readPragmas template.pragmas with
    | (some capability, state) => (.error (refusal template capability), state)
    | (none, state) => (.ok (), state)
  proceed state := (inTime state.asked, { state with asked := state.asked + 1 })

end Request

end Mustache.Web
