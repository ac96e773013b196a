import Mustache.Disk

namespace Mustache

/-! A disk as a tree of directories. The entries of a directory stand in the order
of their names. -/

inductive FileTree where
  | file (bytes : ByteArray)
  | directory (entries : List (String × FileTree))

namespace FileTree

def empty : FileTree :=
  directory []

def entry? (tree : FileTree) (name : String) : Option FileTree :=
  match tree with
  | file _ => none
  | directory entries => Entries.find? name entries

def at? : (names : List String) → FileTree → Option FileTree
  | [], tree => some tree
  | name :: rest, tree => (tree.entry? name).bind (at? rest)

mutual
def files : FileTree → List (List String)
  | file _ => [[]]
  | directory entries => filesOf entries

def filesOf : List (String × FileTree) → List (List String)
  | [] => []
  | (name, tree) :: rest => tree.files.map (name :: ·) ++ filesOf rest
end

/-! ## Ways that paths describe -/

def longestName : Nat := 255

def longestPath : Nat := 4095

/-- Go on from a directory by one part of a path. A part that is empty or a dot
stays there, and two dots lead back. -/
def follow (tree : FileTree) (way : List String) (part : String) : Except DiskError (List String) :=
  match tree.at? way with
  | none => .error .missing
  | some (file _) => .error .notDirectory
  | some (directory entries) =>
    if part == "" || part == "." then .ok way
    else if part == ".." then .ok way.dropLast
    else if longestName < part.utf8ByteSize then .error .tooLong
    else if Entries.has part entries then .ok (way ++ [part])
    else .error .missing

/-- The way to what a path describes, from the directory `home` on unless the path
is absolute. -/
def locate (tree : FileTree) (home : List String) (path : Path) : Except DiskError (List String) :=
  if path.text.isEmpty then .error .missing
  else if path.text.toList.contains '\x00' then .error .badName
  else if longestPath < path.text.utf8ByteSize then .error .tooLong
  else
    (Text.stringPieces '/' path.text).foldlM tree.follow (if path.isAbsolute then [] else home)

def read (tree : FileTree) (home : List String) (path : Path) : Except DiskError ByteArray := do
  match tree.at? (← tree.locate home path) with
  | some (file bytes) => return bytes
  | some (directory _) => throw .isDirectory
  | none => throw .missing

def filesBelow (tree : FileTree) (home : List String) (path : Path) : List (List String) :=
  match tree.locate home path with
  | .ok way => ((tree.at? way).map files).getD []
  | .error _ => []

def disk (tree : FileTree) (home : List String) : Disk :=
  ⟨tree.read home, tree.filesBelow home⟩

/-! ## Changes -/

def putEntry (name : String) (tree : FileTree) :
    List (String × FileTree) → List (String × FileTree)
  | [] => [(name, tree)]
  | (other, old) :: rest =>
    if name = other then (name, tree) :: rest
    else if name < other then (name, tree) :: (other, old) :: rest
    else (other, old) :: putEntry name tree rest

/-- Put a tree at the end of a way, making the directories on it. A file in the
way stops this. -/
def put (new : FileTree) : (way : List String) → FileTree → Except DiskError FileTree
  | [], _ => .ok new
  | _ :: _, file _ => .error .notDirectory
  | name :: rest, directory entries => do
    let inner ← put new rest ((Entries.find? name entries).getD empty)
    return directory (putEntry name inner entries)

/-- Make a directory and those around it that are missing. -/
def makeDirectory (tree : FileTree) (home : List String) (path : Path) :
    Except DiskError FileTree := do
  let step (reached : FileTree × List String) (part : String) :
      Except DiskError (FileTree × List String) := do
    match reached.1.follow reached.2 part with
    | .ok way => return (reached.1, way)
    | .error .missing =>
      let way := reached.2 ++ [part]
      return (← put empty way reached.1, way)
    | .error error => throw error
  let (tree, way) ← (Text.stringPieces '/' path.text).foldlM step
    (tree, if path.isAbsolute then [] else home)
  match tree.at? way with
  | some (directory _) => return tree
  | _ => throw .occupied

/-- Write a file into a directory that is there. -/
def writeFile (tree : FileTree) (home : List String) (path : Path) (bytes : ByteArray) :
    Except DiskError FileTree := do
  match tree.locate home path with
  | .ok way =>
    match tree.at? way with
    | some (file _) => put (file bytes) way tree
    | _ => throw .isDirectory
  | .error .missing =>
    let parts := Text.stringPieces '/' path.text
    let way ← parts.dropLast.foldlM tree.follow (if path.isAbsolute then [] else home)
    match parts.getLast? with
    | some name => if name == "" then throw .isDirectory else put (file bytes) (way ++ [name]) tree
    | none => throw .missing
  | .error error => throw error

/-- Write a file, and make its directory if it is missing. -/
def write (tree : FileTree) (home : List String) (path : Path) (bytes : ByteArray) :
    Except DiskError FileTree := do
  let tree ←
    match path.parent? with
    | none => pure tree
    | some parent => if parent.text.isEmpty then pure tree else tree.makeDirectory home parent
  tree.writeFile home path bytes

example : (empty.write [] ⟨"a/b/c"⟩ ⟨#[1]⟩).toOption.map files = some [["a", "b", "c"]] := by
  decide +kernel

end FileTree

end Mustache
