import Mustache.Document.Yaml.Scalar
import Mustache.Document.Yaml.Token
import Mustache.Web.Query

namespace Mustache.Document.Yaml

/-! Reading single tokens that are no scalars. -/

def readNumber : Reader Nat := do
  let digits ← readWhile Char.isDigit
  if digits.isEmpty || 9 < digits.length then failure
  return Number.digitsValue digits

/-- A handle of a tag: an exclamation mark, or a word between two of them. In a
tag it may turn out to be the start of a suffix. -/
def readHandle (directive : Bool) : Reader String := do
  if !(← nextIs '!') then failure
  skip 1
  let word ← readWhile isWordCharacter
  if ← nextIs '!' then
    skip 1
    return "!" ++ String.ofList word ++ "!"
  if directive && !word.isEmpty then failure
  return "!" ++ String.ofList word

def isUriCharacter (verbatim : Bool) (character : Char) : Bool :=
  isWordCharacter character || ";/?:@&=+$.%!~*'()".toList.contains character ||
    (verbatim && (character == ',' || character == '[' || character == ']'))

/-- Whether two hexadecimal digits follow each percent sign. -/
def hasWholeBytes : List Char → Bool
  | [] => true
  | '%' :: high :: low :: rest =>
    (hexValue? high).isSome && (hexValue? low).isSome && hasWholeBytes rest
  | character :: rest => character != '%' && hasWholeBytes rest

/-- The rest of a tag; percent signs stand before bytes in hexadecimal digits. -/
def readUri (verbatim : Bool) : Reader String := do
  let text ← readWhile (isUriCharacter verbatim)
  if !hasWholeBytes text then failure
  let bytes := Web.decodePercent (Text.encodeUtf8 text)
  match String.fromUTF8? ⟨bytes.toArray⟩ with
  | some uri => return uri
  | none => failure

def readTag : Reader Token := do
  let (handle, suffix) ←
    if (← peekAt 1) == some '<' then
      skip 2
      let uri ← readUri true
      if uri.isEmpty || !(← nextIs '>') then failure
      skip 1
      pure ("", uri)
    else
      let handle ← readHandle false
      let suffix ← readUri false
      if 1 < handle.length && handle.endsWith "!" then
        if suffix.isEmpty then failure
        pure (handle, suffix)
      else
        let whole := (handle.drop 1).toString ++ suffix
        pure (if whole.isEmpty then ("", "!") else ("!", whole))
  return .tag handle suffix

/-- The name of an anchor or an alias, from behind its first character. -/
def readName : Reader String := do
  let name ← readWhile isWordCharacter
  let behind ← peek
  let ends := isGap behind || behind.any ("?:,]\x7d%@`".toList.contains ·)
  if name.isEmpty || !ends then failure
  return String.ofList name

def readDirective : Reader Token := do
  let name := String.ofList (← readWhile isWordCharacter)
  if !(← nextIsGap) then failure
  let _ ← readWhile isBlank
  let token ←
    if name == "YAML" then
      let major ← readNumber
      if !(← nextIs '.') then failure
      skip 1
      let minor ← readNumber
      pure (Token.version major minor)
    else if name == "TAG" then
      let handle ← readHandle true
      if !(← nextIsBlank) then failure
      let _ ← readWhile isBlank
      let stem ← readUri true
      if stem.isEmpty || !(← nextIsGap) then failure
      pure (Token.tagDirective handle stem)
    else failure
  skipToLineEnd
  return token

end Mustache.Document.Yaml
