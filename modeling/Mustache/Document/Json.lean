import Mustache.Document.JsonNumber

namespace Mustache.Document

/-! JSON documents. Nothing is read as `absent`, an object as a map in the order
of its keys. -/

/-- Blank characters of JSON are fewer than those of Unicode. -/
def isJsonBlank (character : Char) : Bool :=
  character == ' ' || character == '\n' || character == '\t' || character == '\r'

def skipJsonBlanks (text : List Char) : List Char :=
  text.dropWhile isJsonBlank

def hexValue? (digit : Char) : Option Nat :=
  if digit.isDigit then some (digit.toNat - '0'.toNat)
  else if 'a' ≤ digit && digit ≤ 'f' then some (digit.toNat - 'a'.toNat + 10)
  else if 'A' ≤ digit && digit ≤ 'F' then some (digit.toNat - 'A'.toNat + 10)
  else none

/-- The value of hexadecimal digits, if all characters are such digits. -/
def hexNumber? (digits : List Char) : Option Nat :=
  digits.foldl (fun value digit => do return 16 * (← value) + (← hexValue? digit)) (some 0)

/-- The character of a code point, unless it is a surrogate or too large. -/
def character? (point : Nat) : Option Char :=
  if valid : point.isValidChar then some (Char.ofNatAux point valid) else none

def jsonEscape? (letter : Char) : Option Char :=
  match letter with
  | '"' => some '"'
  | '\\' => some '\\'
  | '/' => some '/'
  | 'b' => some '\x08'
  | 'f' => some '\x0c'
  | 'n' => some '\n'
  | 'r' => some '\r'
  | 't' => some '\t'
  | _ => none

/-- The text of a string behind its opening quote, and what follows its closing
quote. A character beyond the first plane is escaped as a pair of surrogates; a
surrogate without its other half is refused, and so are control characters. -/
def readJsonString? (passed : List Char) : List Char → Option (String × List Char)
  | [] => none
  | '"' :: rest => some (String.ofList passed.reverse, rest)
  | '\\' :: 'u' :: a :: b :: c :: d :: rest =>
    match hexNumber? [a, b, c, d] with
    | none => none
    | some code =>
      if 0xD800 ≤ code && code < 0xDC00 then
        match rest with
        | '\\' :: 'u' :: e :: f :: g :: h :: rest =>
          match hexNumber? [e, f, g, h] with
          | none => none
          | some low =>
            if 0xDC00 ≤ low && low < 0xE000 then
              match character? (0x10000 + (code - 0xD800) * 0x400 + (low - 0xDC00)) with
              | some character => readJsonString? (character :: passed) rest
              | none => none
            else none
        | _ => none
      else
        match character? code with
        | some character => readJsonString? (character :: passed) rest
        | none => none
  | '\\' :: letter :: rest =>
    match jsonEscape? letter with
    | some character => readJsonString? (character :: passed) rest
    | none => none
  | character :: rest =>
    if character < ' ' || character == '\\' then none
    else readJsonString? (character :: passed) rest

variable {Lambda : Type}

abbrev JsonReader (α : Type) := List Char → Option (α × List Char)

/-- The items of a list behind its opening bracket, at most `rounds` of them. -/
def readJsonItems? (readItem : JsonReader (Value Lambda)) :
    (rounds : Nat) → (passed : List (Value Lambda)) → JsonReader (List (Value Lambda))
  | 0, _, _ => none
  | rounds + 1, passed, text =>
    match readItem (skipJsonBlanks text) with
    | none => none
    | some (item, behind) =>
      match skipJsonBlanks behind with
      | ',' :: rest => readJsonItems? readItem rounds (item :: passed) rest
      | ']' :: rest => some ((item :: passed).reverse, rest)
      | _ => none

/-- The entries of an object behind its opening brace, at most `rounds` of them.
The last value of a key counts, at the place of the first. -/
def readJsonEntries? (readItem : JsonReader (Value Lambda)) :
    (rounds : Nat) → (passed : Bindings Lambda) → JsonReader (Bindings Lambda)
  | 0, _, _ => none
  | rounds + 1, passed, text =>
    match skipJsonBlanks text with
    | '"' :: rest =>
      match readJsonString? [] rest with
      | none => none
      | some (name, behind) =>
        match skipJsonBlanks behind with
        | ':' :: rest =>
          match readItem (skipJsonBlanks rest) with
          | none => none
          | some (item, behind) =>
            match skipJsonBlanks behind with
            | ',' :: rest => readJsonEntries? readItem rounds (passed.insert name item) rest
            | '}' :: rest => some (passed.insert name item, rest)
            | _ => none
        | _ => none
    | _ => none

/-- A value that starts right here, with at most `depth` lists and objects one
inside the other. -/
def readJsonValue? (depth : Nat) : JsonReader (Value Lambda)
  | 'n' :: 'u' :: 'l' :: 'l' :: rest => some (.absent, rest)
  | 't' :: 'r' :: 'u' :: 'e' :: rest => some (.bool true, rest)
  | 'f' :: 'a' :: 'l' :: 's' :: 'e' :: rest => some (.bool false, rest)
  | '"' :: rest => (readJsonString? [] rest).map fun (text, behind) => (.text text, behind)
  | '[' :: rest =>
    match depth with
    | 0 => none
    | inside + 1 =>
      match skipJsonBlanks rest with
      | ']' :: behind => some (.list [], behind)
      | text =>
        (readJsonItems? (readJsonValue? inside) text.length [] text).map fun (items, behind) =>
          (.list items, behind)
  | '{' :: rest =>
    match depth with
    | 0 => none
    | inside + 1 =>
      match skipJsonBlanks rest with
      | '}' :: behind => some (.map [], behind)
      | text =>
        (readJsonEntries? (readJsonValue? inside) text.length [] text).map
          fun (entries, behind) => (.map entries, behind)
  | text => readJsonNumber? text

/-- A document is one value. Lists and objects may stand in one another up to a
depth of 127. -/
def readJson? (text : List Char) : Option (Value Lambda) :=
  match readJsonValue? 127 (skipJsonBlanks text) with
  | some (value, behind) => if (skipJsonBlanks behind).isEmpty then some value else none
  | none => none

end Mustache.Document
