namespace Mustache

/-! The text that a rendering writes, kept as the fragments in which it was
written. -/

/-- How text of name tags is written. -/
abbrev Encoding := String → String

namespace Encoding

/-- What stands for a character in HTML text and attributes. -/
def entity (character : Char) : List Char :=
  match character with
  | '&' => "&amp;".toList
  | '<' => "&lt;".toList
  | '>' => "&gt;".toList
  | '"' => "&quot;".toList
  | '\'' => "&#39;".toList
  | other => [other]

def htmlChars (text : List Char) : List Char :=
  text.flatMap entity

/-- Text in which entities stand for the characters that have a meaning in HTML. -/
def escape (text : String) : String :=
  String.ofList (htmlChars text.toList)

/-- Whether a character has a meaning in HTML. -/
def isSpecial (character : Char) : Bool :=
  match character with
  | '&' | '<' | '>' | '"' | '\'' => true
  | _ => false

/-- Text is escaped only if there is something to escape in it. -/
def html : Encoding :=
  fun text => if text.toList.any isSpecial then escape text else text

def none : Encoding :=
  id

example : htmlChars "a<b & 'c'".toList = "a&lt;b &amp; &#39;c&#39;".toList := by decide +kernel

end Encoding

structure Output where
  encoding : Encoding
  fragments : Array String

namespace Output

def empty (encoding : Encoding) : Output :=
  ⟨encoding, #[]⟩

/-- Add a fragment; empty text adds none. -/
def appendRaw (output : Output) (text : String) : Output :=
  if text.isEmpty then output else { output with fragments := output.fragments.push text }

/-- Add a fragment through the encoding; empty text adds none. -/
def append (output : Output) (text : String) : Output :=
  if text.isEmpty then output
  else { output with fragments := output.fragments.push (output.encoding text) }

/-- An output with the same encoding and nothing written. -/
def fork (output : Output) : Output :=
  empty output.encoding

def splice (output other : Output) : Output :=
  { output with fragments := output.fragments ++ other.fragments }

def isEmpty (output : Output) : Bool :=
  output.fragments.isEmpty

def byteLength (output : Output) : Nat :=
  output.fragments.foldl (fun length fragment => length + fragment.utf8ByteSize) 0

def text (output : Output) : String :=
  output.fragments.foldl (· ++ ·) ""

end Output

end Mustache
