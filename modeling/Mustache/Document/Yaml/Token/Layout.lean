import Mustache.Document.Yaml.Reader
import Mustache.Document.Yaml.Token

namespace Mustache.Document.Yaml

/-! How columns and colons lay out a document: which block collections are open,
and where a key may have started. -/

/-- A place at which a key may have started that is known for a key only when
its colon is read. -/
structure KeyStart where
  /-- A key has to be here because nothing else may start in this column. -/
  required : Bool
  /-- The number of tokens before it. -/
  tokens : Nat
  place : Place

structure Scan where
  tokens : Array Token
  /-- Column of the innermost block collection, -1 outside of all. -/
  indent : Int
  /-- Columns of the block collections around it. -/
  outer : List Int
  keyAllowed : Bool
  /-- The last place at which a key may have started, for the block around all
  flow collections and for each of these, the innermost first. -/
  keys : List (Option KeyStart)

abbrev Scanner := StateT Scan Reader

def inFlow : Scanner Bool :=
  return 1 < (← get).keys.length

def emit (token : Token) : Scanner Unit :=
  modify fun scan => { scan with tokens := scan.tokens.push token }

def allowKey (allowed : Bool) : Scanner Unit :=
  modify fun scan => { scan with keyAllowed := allowed }

def setKey (start : Option KeyStart) : Scanner Unit :=
  modify fun scan => { scan with keys := start :: scan.keys.drop 1 }

/-- Give up the last place at which a key may have started. -/
def dropKey : Scanner Unit := do
  match (← get).keys.head? with
  | some (some start) => if start.required then failure
  | _ => pure ()
  setKey none

def saveKey : Scanner Unit := do
  let scan ← get
  if scan.keyAllowed then
    let place : Place ← getThe Place
    let required := !(← inFlow) && scan.indent == place.column
    dropKey
    setKey (some ⟨required, scan.tokens.size, place⟩)

/-- A key stands on one line and is at most 1024 characters long. -/
def dropStaleKeys : Scanner Unit := do
  let place : Place ← getThe Place
  let stale (start : KeyStart) : Bool :=
    start.place.line < place.line || start.place.index + 1024 < place.index
  let keys := (← get).keys
  if keys.any (·.any fun start => stale start && start.required) then failure
  modify fun scan =>
    { scan with keys := keys.map fun start => start.filter (!stale ·) }

/-- Start a block collection if this column is deeper than the one around it. -/
def openBlock (column : Nat) (position : Option Nat) (token : Token) : Scanner Unit := do
  let scan ← get
  if !(← inFlow) && scan.indent < column then
    set { scan with
      indent := column
      outer := scan.indent :: scan.outer
      tokens := match position with
        | some index => scan.tokens.insertIdxIfInBounds index token
        | none => scan.tokens.push token }

/-- End the block collections that are deeper than a column. -/
def closeBlocks (column : Int) : Scanner Unit := do
  if !(← inFlow) then
    modify fun scan =>
      let closed := (scan.indent :: scan.outer).takeWhile (column < ·)
      match (scan.indent :: scan.outer).drop closed.length with
      | indent :: outer =>
        { scan with
          indent, outer
          tokens := scan.tokens ++ closed.map fun _ => Token.blockEnd }
      | [] => scan

end Mustache.Document.Yaml
