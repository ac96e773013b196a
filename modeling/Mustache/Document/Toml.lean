import Mustache.Document.Toml.Moment
import Mustache.Document.Toml.Number
import Mustache.Document.Toml.Table

namespace Mustache.Document

namespace Toml

/-! TOML documents. -/

variable {Lambda : Type}

/-- The key under which the text of a moment is found. -/
def momentKey : String :=
  "$__toml_private_datetime"

abbrev Pair (Lambda : Type) := List String × String × Value Lambda

def readPair (read : Reader (Value Lambda)) : Reader (Pair Lambda) := do
  let key ← readKey
  expect "="
  skipBlanks
  let value ← read
  match key.reverse with
  | name :: path => return (path.reverse, name, value)
  | [] => failure

/-- The items of a list behind its bracket, over any number of lines. A comma may
stand behind the last one. -/
def readItems (read : Reader (Value Lambda)) : (rounds : Nat) → Reader (List (Value Lambda))
  | 0 => failure
  | rounds + 1 => do
    skipSpace
    if ← pass "]" then return []
    let item ← read
    skipSpace
    if ← pass "," then return item :: (← readItems read rounds)
    expect "]"
    return [item]

/-- The pairs of a table behind its brace, on one line. -/
def readPairs (read : Reader (Value Lambda)) : (rounds : Nat) → Reader (List (Pair Lambda))
  | 0 => failure
  | rounds + 1 => do
    let pair ← readPair read
    skipBlanks
    if ← pass "," then return pair :: (← readPairs read rounds)
    expect "\x7d"
    return [pair]

def tableOfPairs (pairs : List (Pair Lambda)) : Option (Value Lambda) := do
  let entries ← pairs.foldlM (fun entries (path, name, value) =>
    Items.addValue path name value .head entries) []
  return .map (entriesOf entries)

def readScalar : Reader (Value Lambda) := do
  let text ← get
  match text.head? with
  | none => failure
  | some character =>
    if character == '"' || character == '\'' then return .text (← readString)
    else if ← pass "true" then return .bool true
    else if ← pass "false" then return .bool false
    else if isDateAhead text || isTimeAhead text then
      return .map [(momentKey, .text (← readMoment))]
    else readNumber

/-- A value with at most `depth` lists and tables one inside the other. -/
def readValue : (depth : Nat) → Reader (Value Lambda)
  | 0 => readScalar
  | inside + 1 => do
    let rounds := (← get).length
    if ← pass "[" then
      return .list (← readItems (readValue inside) rounds)
    else if ← pass "\x7b" then
      skipBlanks
      if ← pass "\x7d" then return .map []
      liftM (tableOfPairs (← readPairs (readValue inside) rounds))
    else readScalar

/-! ## Documents -/

/-- The entries so far, and the path of the table that pairs are added to. -/
structure Progress (Lambda : Type) where
  entries : Items Lambda
  table : List String

def Progress.open (progress : Progress Lambda) (path : List String)
    (change : String → Items Lambda → Option (Items Lambda)) : Option (Progress Lambda) := do
  let name ← path.getLast?
  let entries ← Items.changeAt false (fun _ => change name) path.dropLast .head progress.entries
  return ⟨entries, path⟩

def Progress.add (progress : Progress Lambda) (pair : Pair Lambda) : Option (Progress Lambda) := do
  let (path, name, value) := pair
  let entries ← Items.changeAt false (Items.addValue path name value) progress.table .head
    progress.entries
  return { progress with entries }

/-- One line, or more if a value goes over several lines. -/
def readLine (progress : Progress Lambda) : Reader (Progress Lambda) := do
  if ← pass "[[" then
    let path ← readKey
    expect "]]"
    finishLine
    liftM (progress.open path Items.openElement)
  else if ← pass "[" then
    let path ← readKey
    expect "]"
    finishLine
    liftM (progress.open path Items.openTable)
  else
    let pair ← readPair (readValue 79)
    finishLine
    liftM (progress.add pair)

def readLines (progress : Progress Lambda) : (rounds : Nat) → Reader (Progress Lambda)
  | 0 => failure
  | rounds + 1 => do
    skipSpace
    if (← get).isEmpty then return progress
    readLines (← readLine progress) rounds

end Toml

def readToml? {Lambda : Type} (text : List Char) : Option (Value Lambda) :=
  let text :=
    match text with
    | '\uFEFF' :: rest => rest
    | rest => rest
  match (Toml.readLines ⟨[], []⟩ (text.length + 1)).run text with
  | some (progress, _) => some (.map (Toml.entriesOf progress.entries))
  | none => none

end Mustache.Document
