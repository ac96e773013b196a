import Mustache.Node
import Mustache.Output
import Mustache.Text.Pieces
import Mustache.Value

namespace Mustache

/-! What a template means without regard to how it is rendered: a text for every
way to bind names to values. There are no scopes here. All names stand in one
flat collection, and the keys of a map that a section opens replace those bound
before. -/

variable {Lambda : Type}

/-! ## Names -/

namespace Bindings

/-- The value bound to a key, which is nothing where the key is not bound. -/
def valueAt (bindings : Bindings Lambda) (key : String) : Value Lambda :=
  (bindings.find? key).getD .absent

/-- The value of a name. The first part of a name with dots is bound, and the
others are keys of the maps found. The dot alone is bound like a name. -/
def valueOf (bindings : Bindings Lambda) (name : String) : Value Lambda :=
  if name = "." then bindings.valueAt "."
  else
    match Text.stringPieces '.' name with
    | [] => .absent
    | first :: keys =>
      keys.foldl (fun value key => (value.key? key).getD .absent) (bindings.valueAt first)

/-- Bindings with the entries of a map put in place of those of the same names. -/
def override (bindings entries : Bindings Lambda) : Bindings Lambda :=
  entries.extend bindings

/-- Bindings for an element of a list. An element that is no map is bound to the
dot. -/
def withElement (bindings : Bindings Lambda) : Value Lambda → Bindings Lambda
  | .map entries => bindings.override entries
  | other => bindings.override [(".", other)]

end Bindings

/-! ## Sections -/

/-- The bindings under which a section over a value writes its body, once for each
of them. -/
def Value.rounds (bindings : Bindings Lambda) : Value Lambda → List (Bindings Lambda)
  | .absent => []
  | .bool truth => if truth then [bindings] else []
  | .integer number => if number = 0 then [] else [bindings]
  | .float number => if number == 0 then [] else [bindings]
  | .text written => if written = "" then [] else [bindings]
  | .map [] => []
  | .map entries => [bindings.override entries]
  | .list items => items.map bindings.withElement
  | .lambda _ => []

/-! ## Templates -/

mutual
/-- The text that a node stands for where no template can be included and no name
is bound to a lambda. -/
def Node.meaning (bindings : Bindings Lambda) : Node → String
  | .plain text _ => text
  | .leaf .name name _ _ => Encoding.html (bindings.valueOf name).output
  | .leaf .unescaped name _ _ => (bindings.valueOf name).output
  | .leaf .triple name _ _ => (bindings.valueOf name).output
  | .leaf .comment _ _ _ => ""
  | .leaf .pragma _ _ _ => ""
  | .leaf .redelimit _ _ _ => ""
  | .leaf .inclusion _ _ _ => ""
  | .group .inverted name _ _ children _ _ =>
    match bindings.valueOf name with
    | .absent => Node.forestMeaning bindings children
    | .bool false => Node.forestMeaning bindings children
    | .map [] => Node.forestMeaning bindings children
    | .list [] => Node.forestMeaning bindings children
    | _ => ""
  | .group .section name _ _ children _ _ =>
    String.join (((bindings.valueOf name).rounds bindings).map fun inner =>
      Node.forestMeaning inner children)

def Node.forestMeaning (bindings : Bindings Lambda) : List Node → String
  | [] => ""
  | node :: rest => node.meaning bindings ++ Node.forestMeaning bindings rest
end

/-! ## Bindings without lambdas -/

namespace Value

theorem lambdaFree_of_mem_entries {entries : Bindings Lambda} {entry : String × Value Lambda}
    (free : entriesLambdaFree entries = true) (member : entry ∈ entries) :
    entry.2.lambdaFree = true := by
  induction entries with
  | nil => cases member
  | cons first rest induction =>
      rw [entriesLambdaFree, Bool.and_eq_true] at free
      rcases List.mem_cons.mp member with rfl | later
      · exact free.1
      · exact induction free.2 later

theorem lambdaFree_of_find? {entries : Bindings Lambda} {key : String} {value : Value Lambda}
    (free : entriesLambdaFree entries = true) (found : entries.find? key = some value) :
    value.lambdaFree = true :=
  lambdaFree_of_mem_entries free (Entries.mem_of_find? found)

theorem lambdaFree_of_mem {items : List (Value Lambda)} {item : Value Lambda}
    (free : itemsLambdaFree items = true) (member : item ∈ items) :
    item.lambdaFree = true := by
  induction items with
  | nil => cases member
  | cons first rest induction =>
      simp only [itemsLambdaFree, Bool.and_eq_true] at free
      rcases List.mem_cons.mp member with equal | later
      · rw [equal]
        exact free.1
      · exact induction free.2 later

/-- Going down into a map finds no lambda in a value that holds none. -/
theorem lambdaFree_key? {value : Value Lambda} (free : value.lambdaFree = true) (key : String) :
    ((value.key? key).getD .absent).lambdaFree = true := by
  cases found : value.key? key with
  | none => rfl
  | some inside =>
      cases value with
      | map entries => exact lambdaFree_of_find? free found
      | _ => cases found

end Value

namespace Bindings

/-- No name is bound to a lambda or to a value that holds one. -/
def Free (bindings : Bindings Lambda) : Prop :=
  ∀ key value, bindings.find? key = some value → value.lambdaFree = true

theorem free_of_entriesLambdaFree {bindings : Bindings Lambda}
    (free : Value.entriesLambdaFree bindings = true) : bindings.Free := by
  intro key value found
  exact Value.lambdaFree_of_find? free found

theorem Free.override {bindings entries : Bindings Lambda} (outside : bindings.Free)
    (inside : entries.Free) : (bindings.override entries).Free := by
  intro key value found
  rw [Bindings.override, Entries.find?_extend] at found
  cases bound : entries.find? key with
  | some inner =>
      rw [bound] at found
      cases found
      exact inside key value bound
  | none =>
      rw [bound] at found
      exact outside key value found

theorem Free.withElement {bindings : Bindings Lambda} (free : bindings.Free)
    {element : Value Lambda} (holds : element.lambdaFree = true) :
    (bindings.withElement element).Free := by
  have alone : Free [(".", element)] := by
    apply free_of_entriesLambdaFree
    rw [Value.entriesLambdaFree, holds]
    rfl
  cases element with
  | map entries => exact free.override (free_of_entriesLambdaFree holds)
  | _ => exact free.override alone

theorem Free.valueAt {bindings : Bindings Lambda} (free : bindings.Free) (key : String) :
    (bindings.valueAt key).lambdaFree = true := by
  unfold Bindings.valueAt
  cases found : bindings.find? key with
  | none => rfl
  | some value => exact free key value found

theorem Free.valueOf {bindings : Bindings Lambda} (free : bindings.Free) (name : String) :
    (bindings.valueOf name).lambdaFree = true := by
  have descends : ∀ (keys : List String) (value : Value Lambda), value.lambdaFree = true →
      (keys.foldl (fun value key => (value.key? key).getD .absent) value).lambdaFree = true := by
    intro keys
    induction keys with
    | nil =>
        intro value holds
        exact holds
    | cons key rest induction =>
        intro value holds
        exact induction _ (Value.lambdaFree_key? holds key)
  unfold Bindings.valueOf
  split
  · exact free.valueAt "."
  · split
    · rfl
    · exact descends _ _ (free.valueAt _)

end Bindings

end Mustache
