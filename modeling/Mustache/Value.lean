import Mustache.Entries
import Mustache.Number.Written
import Mustache.Text.Quoted

namespace Mustache

/-! Values that a template is rendered against. Lambdas are named by a type of
the program that embeds the library; what a lambda does is told when a template
is rendered, so values are plain data. -/

inductive Value (Lambda : Type) where
  | absent
  | bool (value : Bool)
  | integer (value : Int64)
  | float (value : Float)
  | text (value : String)
  | map (entries : List (String × Value Lambda))
  | list (items : List (Value Lambda))
  | lambda (lambda : Lambda)

abbrev Bindings (Lambda : Type) := Entries (Value Lambda)

namespace Value

variable {Lambda : Type}

instance : Inhabited (Value Lambda) := ⟨absent⟩

def isAbsent : Value Lambda → Bool
  | absent => true
  | _ => false

/-- Whether a section over the value renders: all but nothing, false, zero and
what is empty. -/
def isTruthy : Value Lambda → Bool
  | absent => false
  | bool value => value
  | integer value => value != 0
  | float value => value != 0
  | text value => !value.isEmpty
  | map entries => !entries.isEmpty
  | list items => !items.isEmpty
  | lambda _ => true

/-- Whether an inverted section over the value renders: for nothing, false and
empty collections. Zero and the empty text do not render either kind. -/
def isFalsy : Value Lambda → Bool
  | absent | bool false => true
  | map entries => entries.isEmpty
  | list items => items.isEmpty
  | _ => false

/-- A whole number of a size that integers have is written with all its digits,
and zero without a sign. -/
def floatOutput (number : Float) : String :=
  match (Number.Binary.ofFloat? number).bind Number.Binary.toInt? with
  | some whole =>
    if whole.natAbs < Number.twoTo 63 then Number.wholeText whole else Number.floatText number
  | none => Number.floatText number

/-- The text that a name tag writes. Collections write nothing. -/
def output : Value Lambda → String
  | absent | map _ | list _ | lambda _ => ""
  | bool value => if value then "true" else "false"
  | integer value => Number.wholeText value.toInt
  | float value => floatOutput value
  | text value => value

def text? : Value Lambda → Option String
  | text value => some value
  | _ => none

def entries? : Value Lambda → Option (Bindings Lambda)
  | map entries => some entries
  | _ => none

def key? (name : String) : Value Lambda → Option (Value Lambda)
  | map entries => Entries.find? name entries
  | _ => none

/-! ## Equality

Numbers are equal as numbers, so the float that stands for no number differs
from itself, and an integer differs from every float. The order of the keys of a
map does not matter. -/

mutual
def same [BEq Lambda] : Value Lambda → Value Lambda → Bool
  | absent, absent => true
  | bool first, bool second => first == second
  | integer first, integer second => first == second
  | float first, float second => first == second
  | text first, text second => first == second
  | map first, map second => first.length == second.length && sameEntries first second
  | list first, list second => sameItems first second
  | lambda first, lambda second => first == second
  | _, _ => false

/-- Every entry has an equal one of its name among the others. -/
def sameEntries [BEq Lambda] : List (String × Value Lambda) → Bindings Lambda → Bool
  | [], _ => true
  | (name, value) :: rest, others =>
    (match others.find? name with
      | some other => same value other
      | none => false) && sameEntries rest others

def sameItems [BEq Lambda] : List (Value Lambda) → List (Value Lambda) → Bool
  | [], [] => true
  | first :: rest, second :: others => same first second && sameItems rest others
  | _, _ => false
end

/-! ## The form that messages show -/

mutual
def detail : Value Lambda → String
  | absent => "Absent"
  | bool value => "Bool(" ++ (if value then "true" else "false") ++ ")"
  | integer value => "Integer(" ++ Number.wholeText value.toInt ++ ")"
  | float value => "Float(" ++ Number.floatDetail value ++ ")"
  | text value => "String(" ++ Text.quoted value ++ ")"
  | map entries => "Map(\x7b" ++ detailEntries entries ++ "\x7d)"
  | list items => "List([" ++ detailItems items ++ "])"
  | lambda _ => "Lambda(Lambda(..))"

def detailEntries : List (String × Value Lambda) → String
  | [] => ""
  | [(name, value)] => Text.quoted name ++ ": " ++ detail value
  | (name, value) :: rest => Text.quoted name ++ ": " ++ detail value ++ ", " ++ detailEntries rest

def detailItems : List (Value Lambda) → String
  | [] => ""
  | [value] => detail value
  | value :: rest => detail value ++ ", " ++ detailItems rest
end

/-! ## Values without lambdas -/

mutual
def lambdaFree : Value Lambda → Bool
  | lambda _ => false
  | map entries => entriesLambdaFree entries
  | list items => itemsLambdaFree items
  | _ => true

def entriesLambdaFree : List (String × Value Lambda) → Bool
  | [] => true
  | (_, value) :: rest => value.lambdaFree && entriesLambdaFree rest

def itemsLambdaFree : List (Value Lambda) → Bool
  | [] => true
  | value :: rest => value.lambdaFree && itemsLambdaFree rest
end

end Value

end Mustache
