namespace Mustache

/-! Named entries in the order in which their names were first written. A name
stands at most once in entries built from `empty` by the operations below. -/

abbrev Entries (α : Type) := List (String × α)

namespace Entries

variable {α β : Type}

def names (entries : Entries α) : List String :=
  entries.map Prod.fst

def find? (name : String) : Entries α → Option α
  | [] => none
  | (key, value) :: rest => if key = name then some value else find? name rest

def has (name : String) (entries : Entries α) : Bool :=
  (entries.find? name).isSome

/-- Bind a name. A name that is bound keeps its place and changes its value. -/
def insert (name : String) (value : α) : Entries α → Entries α
  | [] => [(name, value)]
  | (key, old) :: rest =>
    if key = name then (key, value) :: rest else (key, old) :: insert name value rest

def insertNew (name : String) (value : α) (entries : Entries α) : Entries α :=
  if entries.has name then entries else entries ++ [(name, value)]

def ofPairs (pairs : List (String × α)) : Entries α :=
  pairs.foldl (fun entries (name, value) => entries.insert name value) []

/-- Add the entries of `other` whose names are not bound yet. -/
def extend (entries other : Entries α) : Entries α :=
  other.foldl (fun bound (name, value) => bound.insertNew name value) entries

def mapValues (transform : α → β) (entries : Entries α) : Entries β :=
  entries.map fun (name, value) => (name, transform value)

example : ofPairs [("a", 1), ("b", 2), ("a", 3)] = [("a", 3), ("b", 2)] := by decide

example : extend [("a", 1)] [("a", 2), ("b", 3)] = [("a", 1), ("b", 3)] := by decide

@[simp] theorem find?_nil (name : String) : find? name ([] : Entries α) = none := rfl

@[simp] theorem find?_insert_same (name : String) (value : α) (entries : Entries α) :
    (entries.insert name value).find? name = some value := by
  induction entries with
  | nil => simp [insert, find?]
  | cons entry rest induction =>
    rcases entry with ⟨key, old⟩
    by_cases equal : key = name <;> simp [insert, find?, equal, induction]

theorem find?_insert_other {name other : String} (different : other ≠ name) (value : α)
    (entries : Entries α) : (entries.insert name value).find? other = entries.find? other := by
  induction entries with
  | nil => simp [insert, find?, different.symm]
  | cons entry rest induction =>
    rcases entry with ⟨key, old⟩
    by_cases equal : key = name
    · subst equal
      simp [insert, find?, different.symm]
    · by_cases same : key = other
      · subst same
        simp [insert, find?, equal]
      · simp [insert, find?, equal, same, induction]

theorem mem_of_find? {name : String} {value : α} {entries : Entries α}
    (found : entries.find? name = some value) : (name, value) ∈ entries := by
  induction entries with
  | nil => cases found
  | cons entry rest induction =>
    rw [find?] at found
    split at found
    · next same =>
      cases found
      exact same ▸ List.mem_cons_self
    · exact List.mem_cons_of_mem _ (induction found)

theorem find?_append (name : String) (first second : Entries α) :
    find? name (first ++ second) = (find? name first).or (find? name second) := by
  induction first with
  | nil => simp
  | cons entry rest induction =>
    rcases entry with ⟨key, value⟩
    by_cases equal : key = name <;> simp [find?, equal, induction]

/-- Extending keeps what was bound and falls back to the other entries. -/
theorem find?_extend (name : String) (entries other : Entries α) :
    (entries.extend other).find? name = (entries.find? name).or (other.find? name) := by
  induction other generalizing entries with
  | nil => simp [extend]
  | cons entry rest induction =>
    rcases entry with ⟨key, value⟩
    have step : (entries.extend ((key, value) :: rest)) =
        (entries.insertNew key value).extend rest := rfl
    rw [step, induction, insertNew]
    by_cases bound : entries.has key
    · rw [if_pos bound]
      by_cases equal : key = name
      · subst equal
        rcases Option.isSome_iff_exists.mp bound with ⟨old, found⟩
        simp [found]
      · simp [find?, equal]
    · rw [if_neg bound, find?_append]
      by_cases equal : key = name
      · subst equal
        have absent : entries.find? key = none := by simpa [has] using bound
        simp [absent, find?]
      · simp [find?, equal]

end Entries

end Mustache
