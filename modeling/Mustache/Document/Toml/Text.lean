import Mustache.Document.Json

namespace Mustache.Document.Toml

/-! The text of a TOML document: blanks, comments, keys and strings. A reader
passes what it reads and fails on what it does not expect. -/

abbrev Reader := StateT (List Char) Option

def isBlank (character : Char) : Bool :=
  character == ' ' || character == '\t'

/-- Characters of comments and strings: all but control characters. -/
def isText (character : Char) : Bool :=
  character == '\t' || (' ' ≤ character && character != '\x7f')

/-- Characters of keys without quotes. -/
def isKeyCharacter (character : Char) : Bool :=
  character.isAlphanum || character == '-' || character == '_'

def peek : Reader (Option Char) :=
  return (← get).head?

def pass (text : String) : Reader Bool := do
  let rest ← get
  if text.toList.isPrefixOf rest then
    set (rest.drop text.length)
    return true
  return false

def expect (text : String) : Reader Unit := do
  if !(← pass text) then failure

def readWhile (holds : Char → Bool) : Reader (List Char) :=
  modifyGet fun text => (text.takeWhile holds, text.dropWhile holds)

def skipBlanks : Reader Unit := do
  let _ ← readWhile isBlank

/-- A line feed, with or without a carriage return before it. -/
def passBreak : Reader Bool := do
  if ← pass "\n" then return true else pass "\r\n"

def passComment : Reader Unit := do
  if (← peek) == some '#' then
    let _ ← readWhile isText

/-- Pass what may stand behind a table head or a value up to the next line. -/
def finishLine : Reader Unit := do
  skipBlanks
  passComment
  if !(← passBreak) && !(← get).isEmpty then failure

def skipSpace : Reader Unit := do
  let rec go : (rounds : Nat) → Reader Unit
    | 0 => return
    | rounds + 1 => do
      skipBlanks
      passComment
      if ← passBreak then go rounds
  go ((← get).length + 1)

/-! ## Strings -/

def escapedCharacter? (letter : Char) : Option Char :=
  match letter with
  | 'b' => some '\x08'
  | 't' => some '\t'
  | 'n' => some '\n'
  | 'f' => some '\x0c'
  | 'r' => some '\r'
  | '"' => some '"'
  | '\\' => some '\\'
  | _ => none

def isLineEnd (text : List Char) : Bool :=
  match text.dropWhile isBlank with
  | '\n' :: _ => true
  | '\r' :: '\n' :: _ => true
  | _ => false

/-- The end of a string between triple quotes. Up to two quotes more belong to
the string. -/
def endTriple (quote : Char) (passed text : List Char) : String × List Char :=
  let own := min ((text.takeWhile (· == quote)).length - 3) 2
  (String.ofList (passed.reverse ++ List.replicate own quote), text.drop (own + 3))

/-- A string from behind its opening quote, with its escapes replaced. A string
between triple quotes may have several lines; behind a backslash at the end of a
line, blanks and line breaks are left out. -/
def readBasic? (triple leaveOut : Bool) (passed : List Char) :
    List Char → Option (String × List Char)
  | [] => none
  | '"' :: rest =>
    if !triple then some (String.ofList passed.reverse, rest)
    else if rest.take 2 == ['"', '"'] then some (endTriple '"' passed ('"' :: rest))
    else readBasic? triple false ('"' :: passed) rest
  | '\\' :: 'u' :: a :: b :: c :: d :: rest =>
    match (hexNumber? [a, b, c, d]).bind character? with
    | some character => readBasic? triple false (character :: passed) rest
    | none => none
  | '\\' :: 'U' :: a :: b :: c :: d :: e :: f :: g :: h :: rest =>
    match (hexNumber? [a, b, c, d, e, f, g, h]).bind character? with
    | some character => readBasic? triple false (character :: passed) rest
    | none => none
  | '\\' :: letter :: rest =>
    if triple && isLineEnd (letter :: rest) then readBasic? triple true passed rest
    else
      match escapedCharacter? letter with
      | some character => readBasic? triple false (character :: passed) rest
      | none => none
  | '\r' :: '\n' :: rest =>
    if !triple then none
    else readBasic? triple leaveOut (if leaveOut then passed else '\n' :: passed) rest
  | character :: rest =>
    if character == '\n' && triple then
      readBasic? triple leaveOut (if leaveOut then passed else '\n' :: passed) rest
    else if leaveOut && isBlank character then readBasic? triple true passed rest
    else if isText character && character != '\\' then
      readBasic? triple false (character :: passed) rest
    else none

/-- A string without escapes from behind its opening quote. -/
def readLiteral? (triple : Bool) (passed : List Char) : List Char → Option (String × List Char)
  | [] => none
  | '\'' :: rest =>
    if !triple then some (String.ofList passed.reverse, rest)
    else if rest.take 2 == ['\'', '\''] then some (endTriple '\'' passed ('\'' :: rest))
    else readLiteral? triple ('\'' :: passed) rest
  | '\r' :: '\n' :: rest => if triple then readLiteral? triple ('\n' :: passed) rest else none
  | character :: rest =>
    if isText character || (triple && character == '\n') then
      readLiteral? triple (character :: passed) rest
    else none

def readLineString : Reader String := do
  if ← pass "\"" then fun text => readBasic? false false [] text
  else if ← pass "'" then fun text => readLiteral? false [] text
  else failure

/-- Any string. A line break right behind triple quotes is left out. -/
def readString : Reader String := do
  if ← pass "\"\"\"" then
    let _ ← passBreak
    fun text => readBasic? true false [] text
  else if ← pass "'''" then
    let _ ← passBreak
    fun text => readLiteral? true [] text
  else readLineString

/-! ## Keys -/

def readKeyPart : Reader String := do
  if (← peek) == some '"' || (← peek) == some '\'' then readLineString
  else
    let name ← readWhile isKeyCharacter
    if name.isEmpty then failure
    return String.ofList name

/-- Parts of a key with dots between them, fewer than `rounds`. -/
def readKeyParts : (rounds : Nat) → Reader (List String)
  | 0 | 1 => failure
  | rounds + 2 => do
    skipBlanks
    let part ← readKeyPart
    skipBlanks
    if ← pass "." then return part :: (← readKeyParts (rounds + 1))
    return [part]

/-- A key has fewer than 80 parts. -/
def readKey : Reader (List String) :=
  readKeyParts 80

end Mustache.Document.Toml
