import Mustache.Store

namespace Mustache

/-! Files on a disk, as far as they can be read. -/

inductive DiskError where
  | missing
  /-- A file stands where a directory is needed. -/
  | notDirectory
  | isDirectory
  /-- A file stands where a directory is to be made. -/
  | occupied
  /-- The bytes of the file are no UTF-8 text. -/
  | notText
  /-- No file can have such a name. -/
  | badName
  /-- Names and paths have a greatest length. -/
  | tooLong
  /-- There is something, but it may not be read. -/
  | refused (reason : String)
deriving DecidableEq, Repr

def DiskError.message : DiskError → String
  | missing => "No such file or directory (os error 2)"
  | notDirectory => "Not a directory (os error 20)"
  | isDirectory => "Is a directory (os error 21)"
  | occupied => "File exists (os error 17)"
  | notText => "stream did not contain valid UTF-8"
  | badName => "file name contained an unexpected NUL byte"
  | tooLong => "File name too long (os error 36)"
  | refused reason => reason

structure Disk where
  read : Path → Except DiskError ByteArray
  /-- The files below a directory, each by the names on the way to it. Directories
  are entered where they stand in the order of names. Of a file the only way is
  the empty one. -/
  filesBelow : Path → List (List String)

namespace Disk

def has (disk : Disk) (path : Path) : Bool :=
  match disk.read path with
  | .ok _ => true
  | .error .isDirectory | .error (.refused _) => true
  | .error _ => false

def readText (disk : Disk) (path : Path) : Except DiskError String :=
  match disk.read path with
  | .error error => .error error
  | .ok bytes =>
    match String.fromUTF8? bytes with
    | some text => .ok text
    | none => .error .notText

def store (disk : Disk) (directory : Path) : Store where
  read path :=
    match disk.read (directory.join path.text) with
    | .ok bytes => .ok bytes
    | .error .missing => .error (.notFound path)
    | .error error => .error (.unreadable error.message)

end Disk

end Mustache
