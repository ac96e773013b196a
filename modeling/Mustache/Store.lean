import Mustache.Error

namespace Mustache

/-! Where templates come from: a store gives the bytes of a file by its path. It keeps
no state: while one template is rendered, its files do not change, and to load a file twice
is to load the same bytes. Between two renderings they may, then there is another store. -/

structure Store where
  read : Path → Except LoadError ByteArray

namespace Store

def empty : Store :=
  ⟨fun path => .error (.notFound path)⟩

/-- The file of a path in a list of files. Paths with the same components are
the same file, and the last file of a path counts. -/
def findFile? (files : List (Path × ByteArray)) (path : Path) : Option ByteArray :=
  (files.reverse.find? fun (name, _) => name.same path).map Prod.snd

def ofFiles (files : List (Path × ByteArray)) : Store where
  read path :=
    match findFile? files path with
    | some bytes => .ok bytes
    | none => .error (.notFound path)

def readText (store : Store) (path : Path) : Except LoadError String :=
  match store.read path with
  | .error error => .error error
  | .ok bytes =>
    match String.fromUTF8? bytes with
    | some text => .ok text
    | none => .error (.notText path)

end Store

/-- The path of a template that is included by its name: next to the file of the
template that includes it, or at the top of the store if there is no file. -/
def Path.ofInclusion (current : Option Path) (name extension : String) : Path :=
  let directory := (current.bind Path.parent?).getD ⟨""⟩
  directory.join (if extension.isEmpty then name else name ++ "." ++ extension)

example : Path.ofInclusion (some ⟨"d/a.x"⟩) "b" "x" = ⟨"d/b.x"⟩ := by decide +kernel

example : Path.ofInclusion none "b" "" = ⟨"b"⟩ := by decide +kernel

end Mustache
