import Mustache.Disk.Question

namespace Mustache

/-! A disk as far as it was looked at. Work on a snapshot that asks for nothing
unknown has the result that it has on the disk itself. -/

structure Snapshot where
  reads : List (Path × Except DiskError ByteArray)
  listings : List (Path × List (List String))

namespace Snapshot

def empty : Snapshot :=
  ⟨[], []⟩

def read? (snapshot : Snapshot) (path : Path) : Option (Except DiskError ByteArray) :=
  (snapshot.reads.find? (·.1 = path)).map Prod.snd

def listing? (snapshot : Snapshot) (path : Path) : Option (List (List String)) :=
  (snapshot.listings.find? (·.1 = path)).map Prod.snd

/-- The disk of a snapshot. What was not looked at seems to be missing. -/
def disk (snapshot : Snapshot) : Disk where
  read path := (snapshot.read? path).getD (.error .missing)
  filesBelow path := (snapshot.listing? path).getD []

def knows (snapshot : Snapshot) : Question → Bool
  | .read path => (snapshot.read? path).isSome
  | .filesBelow path => (snapshot.listing? path).isSome

def openQuestions (snapshot : Snapshot) (questions : List Question) : List Question :=
  (questions.filter (!snapshot.knows ·)).eraseDups

def addRead (snapshot : Snapshot) (path : Path) (found : Except DiskError ByteArray) : Snapshot :=
  { snapshot with reads := (path, found) :: snapshot.reads }

def addListing (snapshot : Snapshot) (path : Path) (ways : List (List String)) : Snapshot :=
  { snapshot with listings := (path, ways) :: snapshot.listings }

end Snapshot

end Mustache
