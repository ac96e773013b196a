import Mustache.Arena
import Mustache.Scanner.Reading

namespace Mustache

/-! Reading a template in one pass. Each tag is put into the arena as soon as it is read, below
the innermost section that is open there. -/

structure Parser where
  name : String
  scanner : Scanner
  markers : Markers
  tags : Array Tag
  roots : List Nat
  /-- The numbers of the open sections and the offsets of their tags, the innermost first. -/
  openGroups : List (Nat × Nat)
  pragmas : List Pragma

namespace Parser

def start (name : String) (source : List Char) : Parser :=
  ⟨name, .start source, .standard, #[], [], [], []⟩

/-- The parser with its scanner at another place. -/
def moveTo (parser : Parser) (scanner : Scanner) : Parser :=
  { parser with scanner }

def fault (parser : Parser) (offset : Nat) (problem : Problem) : Fault :=
  ⟨parser.name, parser.scanner.position offset, problem⟩

/-! ## The arena -/

def tag (parser : Parser) (number : Nat) : Run Fault Tag := do
  Run.rely (.numbers number parser.tags.size)
  return parser.tags[number]?.getD default

def change (parser : Parser) (number : Nat) (change : Tag → Tag) : Run Fault Parser := do
  Run.rely (.numbers number parser.tags.size)
  return { parser with tags := parser.tags.modify number change }

/-- Add a tag to the innermost open section, or to the roots if none is open. -/
def push (parser : Parser) (kind : TagKind) (text : String) : Run Fault (Nat × Parser) := do
  let number := parser.tags.size
  let parent := parser.openGroups.head?.map Prod.fst
  let parser := { parser with tags := parser.tags.push (.start kind text parser.markers parent) }
  match parent with
  | some group =>
    let parser ← parser.change group fun tag => { tag with children := tag.children ++ [number] }
    return (number, parser)
  | none => return (number, { parser with roots := parser.roots ++ [number] })

/-- Add a text, unless it is empty. -/
def pushText (parser : Parser) (text : List Char) : Run Fault Parser :=
  if text.isEmpty then return parser
  else do
    let (_, parser) ← parser.push .plain (String.ofList text)
    return parser

/-- Close the innermost open section by a tag of its name. -/
def closeGroup (parser : Parser) (offset : Nat) (name : String) : Run Fault (Nat × Parser) :=
  match parser.openGroups with
  | [] => Run.fail (parser.fault offset (.unexpectedClosing name))
  | (number, _) :: openGroups => do
    let tag ← parser.tag number
    if tag.text ≠ name then Run.fail (parser.fault offset (.closingMismatch tag.text name))
    let parser ← { parser with openGroups }.change number fun tag =>
      { tag with closeMarkers := some parser.markers }
    return (number, parser)

/-- Do what a tag says. The result is the number of the tag in the arena and whether it is
closed by what was read. -/
def enter (parser : Parser) (offset : Nat) (content : TagContent) :
    Run Fault (Nat × Bool × Parser) :=
  match content with
  | .leaf .pragma text => do
    let (number, parser) ←
      { parser with pragmas := parser.pragmas ++ [Pragma.parse text.toList] }.push
        (.leaf .pragma) text
    return (number, false, parser)
  | .leaf kind text => do
    let (number, parser) ← parser.push (.leaf kind) text
    return (number, false, parser)
  | .redelimit next => do
    let (number, parser) ← parser.push (.leaf .redelimit) (String.ofList next.toChars)
    return (number, false, { parser with markers := next })
  | .opening kind name => do
    let (number, parser) ← parser.push (.group kind) name
    return (number, false, { parser with openGroups := (number, offset) :: parser.openGroups })
  | .closing name => do
    let (number, parser) ← parser.closeGroup offset name
    return (number, true, parser)

/-! ## Reading -/

/-- Read a tag behind its opening mark. The body is cut out of the source when the tag is read,
and then other marks may be in force than those around it. -/
def readTag (parser : Parser) (offset : Nat) : Run Fault Parser := do
  let bodyStart := parser.scanner.byteOffset
  let closingLength := Text.byteLength parser.markers.closing
  let (content, scanner) ←
    (parser.scanner.readTag parser.markers).retell (parser.fault offset)
  let (number, closes, parser) ← (parser.moveTo scanner).enter offset content
  Run.rely (.covers parser.scanner.byteOffset closingLength)
  let bodyEnd := parser.scanner.byteOffset - closingLength
  Run.rely (.encloses parser.scanner.source bodyStart bodyEnd)
  let body := String.ofList (parser.scanner.slice bodyStart bodyEnd)
  parser.change number (·.setBody closes body)

/-- Read a text up to the next opening mark, and the tag behind it if there is one. -/
def round (parser : Parser) : Run Fault (Round Parser Parser) := do
  let (text, marked, scanner) ← parser.scanner.readTo parser.markers.opening
  let parser ← (parser.moveTo scanner).pushText text
  if marked then
    Run.rely (.covers parser.scanner.offset parser.markers.opening.length)
    let parser ← parser.readTag (parser.scanner.offset - parser.markers.opening.length)
    return .goesOn parser
  else return .ends parser

/-- Read on to the end of the source. -/
def readOn (parser : Parser) : Run Fault Parser :=
  Loop.run ⟨(·.scanner.offset), round⟩ parser

/-- The arena of what was read, if no section is open. -/
def finish (parser : Parser) : Run Fault Arena :=
  match parser.openGroups with
  | (number, offset) :: _ => do
    let tag ← parser.tag number
    Run.fail (parser.fault offset (.unterminatedSection tag.text))
  | [] => return ⟨parser.name, parser.tags, parser.roots, parser.pragmas⟩

def parse (name source : String) : Run Fault Arena := do
  let parser ← (start name source.toList).readOn
  parser.finish

end Parser

end Mustache
