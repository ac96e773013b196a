import Mustache.Value

namespace Mustache.Document.Toml

/-! Tables of a TOML document. A table may be opened once by a head; before that
it may be there because heads of tables inside of it came first. Tables that are
made by dotted keys are never opened by a head. -/

inductive Origin where
  | head
  | implied
  | dotted
deriving DecidableEq

inductive Item (Lambda : Type) where
  | value (value : Value Lambda)
  | table (origin : Origin) (entries : List (String × Item Lambda))
  /-- A list of tables, each with a head of its own. -/
  | tables (elements : List (List (String × Item Lambda)))

abbrev Items (Lambda : Type) := Entries (Item Lambda)

variable {Lambda : Type}

mutual
def Item.toValue : Item Lambda → Value Lambda
  | .value value => value
  | .table _ entries => .map (entriesOf entries)
  | .tables elements => .list (mapsOf elements)

def entriesOf : List (String × Item Lambda) → List (String × Value Lambda)
  | [] => []
  | (name, item) :: rest => (name, item.toValue) :: entriesOf rest

def mapsOf : List (List (String × Item Lambda)) → List (Value Lambda)
  | [] => []
  | entries :: rest => .map (entriesOf entries) :: mapsOf rest
end

namespace Items

/-- Change the table at a path. Tables that are missing on the way are made; of
a list of tables the last one is meant. Dotted keys do not lead into tables that
have heads. -/
def changeAt (dotted : Bool) (change : Origin → Items Lambda → Option (Items Lambda)) :
    (path : List String) → Origin → Items Lambda → Option (Items Lambda)
  | [], origin, entries => change origin entries
  | name :: path, _, entries =>
    match entries.find? name with
    | none => do
      let origin := if dotted then .dotted else .implied
      let inner ← changeAt dotted change path origin []
      return entries.insert name (.table origin inner)
    | some (.value _) => none
    | some (.table origin inner) => do
      if dotted && origin = .head then none
      let inner ← changeAt dotted change path origin inner
      return entries.insert name (.table origin inner)
    | some (.tables elements) =>
      match elements.reverse with
      | [] => none
      | last :: before => do
        let last ← changeAt dotted change path .head last
        return entries.insert name (.tables (last :: before).reverse)

/-- Give a value to a dotted key of a table. Only dotted keys add to a table that
is made by dotted keys, and a key has one value. -/
def addValue (path : List String) (name : String) (value : Value Lambda) :
    Origin → Items Lambda → Option (Items Lambda) :=
  changeAt true (fun origin entries =>
    if (origin = .dotted) = (path = []) || entries.has name then none
    else some (entries.insert name (.value value))) path

/-- Open a table. If it was implied before, it moves behind the other entries. -/
def openTable (name : String) (entries : Items Lambda) : Option (Items Lambda) :=
  match entries.find? name with
  | none => some (entries ++ [(name, .table .head [])])
  | some (.table .implied inner) =>
    some (entries.filter (·.1 != name) ++ [(name, .table .head inner)])
  | some _ => none

def openElement (name : String) (entries : Items Lambda) : Option (Items Lambda) :=
  match entries.find? name with
  | none => some (entries ++ [(name, .tables [[]])])
  | some (.tables elements) => some (entries.insert name (.tables (elements ++ [[]])))
  | some _ => none

end Items

end Mustache.Document.Toml
