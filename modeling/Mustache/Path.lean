import Mustache.Text.Pieces

namespace Mustache

/-! Paths of files. A path is kept as it was written; what it means is told by
its components, in which repeated slashes, a slash at the end and a dot behind
the start do not show. -/

structure Path where
  text : String
deriving DecidableEq, Repr, Inhabited

namespace Path

inductive Component where
  | root
  | here
  | above
  | name (text : String)
deriving DecidableEq, Repr

/-- A slash or a lone dot at the start, and what follows it. -/
def lead : List Char → List Char × List Char
  | '/' :: body => (['/'], body)
  | ['.'] => (['.'], [])
  | '.' :: '/' :: body => (['.'], '/' :: body)
  | body => ([], body)

/-- Parts between slashes that name nothing. -/
def isSilent (part : List Char) : Bool :=
  part.isEmpty || part == ['.']

def componentOfPart (part : List Char) : Component :=
  if part == ['.', '.'] then .above else .name (String.ofList part)

def components (path : Path) : List Component :=
  let (start, body) := lead path.text.toList
  let parts := (Text.pieces '/' body).filter (!isSilent ·)
  (if start == ['/'] then [.root] else if start == ['.'] then [.here] else []) ++
    parts.map componentOfPart

def isAbsolute (path : Path) : Bool :=
  path.text.toList.head? == some '/'

/-- The start of a path and its parts, the last one first, from the last part
on that names something. -/
def backwards (path : Path) : List Char × List (List Char) :=
  let (start, body) := lead path.text.toList
  (start, (Text.pieces '/' body).reverse.dropWhile isSilent)

def ofBackwards (start : List Char) (parts : List (List Char)) : Path :=
  ⟨String.ofList (start ++ Text.joinPieces '/' parts.reverse)⟩

/-- The path without its last component; none for the root and the empty path. -/
def parent? (path : Path) : Option Path :=
  match path.backwards with
  | (start, _ :: before) => some (ofBackwards start (before.dropWhile isSilent))
  | (start, []) => if start == ['.'] then some ⟨""⟩ else none

/-- The last component, if it is a name. -/
def fileName? (path : Path) : Option (List Char) :=
  match path.backwards.2 with
  | last :: _ => if last == ['.', '.'] then none else some last
  | [] => none

/-- A file name before and behind its last dot. A dot at the start only does not
divide a name. -/
def divideName (name : List Char) : List Char × Option (List Char) :=
  let behind := (name.reverse.takeWhile (· != '.')).reverse
  let before := name.take (name.length - behind.length - 1)
  if before.isEmpty || behind.length == name.length then (name, none) else (before, some behind)

def extension? (path : Path) : Option String :=
  (path.fileName?.bind fun name => (divideName name).2).map String.ofList

/-- The path with an extension in place of the one of its file name, if it has a
file name. -/
def withExtension (path : Path) (extension : String) : Path :=
  match path.fileName?, path.backwards with
  | some name, (start, _ :: before) =>
    let stem := (divideName name).1
    let file := if extension.isEmpty then stem else stem ++ '.' :: extension.toList
    ofBackwards start (file :: before)
  | _, _ => path

/-- A path below a directory. An absolute path stays what it is. -/
def join (directory : Path) (path : String) : Path :=
  if isAbsolute ⟨path⟩ then ⟨path⟩
  else if directory.text.isEmpty || directory.text.toList.getLast? == some '/' then
    ⟨directory.text ++ path⟩
  else ⟨directory.text ++ "/" ++ path⟩

/-- Whether two paths have the same components. -/
def same (first second : Path) : Bool :=
  first.components == second.components

example : components ⟨"a//./b/"⟩ = [.name "a", .name "b"] := by decide +kernel

example : components ⟨"./a/.."⟩ = [.here, .name "a", .above] := by decide +kernel

example : parent? ⟨"a//b/"⟩ = some ⟨"a"⟩ := by decide +kernel

example : parent? ⟨"./a"⟩ = some ⟨"."⟩ := by decide +kernel

example : extension? ⟨"d/.a.b"⟩ = some "b" := by decide +kernel

example : extension? ⟨"d.e/.a"⟩ = none := by decide +kernel

example : withExtension ⟨"d/a/"⟩ "x" = ⟨"d/a.x"⟩ := by decide +kernel

end Path

end Mustache
