import Mustache.Disk
import Mustache.Rendering

namespace Mustache

inductive Question where
  | read (path : Path)
  | filesBelow (path : Path)
deriving DecidableEq, Repr

namespace Question

/-- The questions of a rendering with the templates of a directory. -/
def ofJournal (directory : Path) (journal : Array Event) : List Question :=
  journal.toList.filterMap fun
    | .loaded path => some (.read (directory.join path.text))
    | _ => none

end Question

end Mustache
