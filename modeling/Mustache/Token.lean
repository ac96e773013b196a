import Mustache.Cursor
import Mustache.Markers
import Mustache.Problem

namespace Mustache

/-! A template source is read as a list of tokens: plain texts and tags in the
order in which they are written. How sections nest does not matter here. -/

inductive LeafKind where
  | name
  | unescaped
  | triple
  | comment
  | inclusion
  | pragma
  | redelimit
deriving DecidableEq, Repr

inductive GroupKind where
  | section
  | inverted
deriving DecidableEq, Repr

inductive TagContent where
  | leaf (kind : LeafKind) (text : String)
  | redelimit (next : Markers)
  | opening (kind : GroupKind) (name : String)
  | closing (name : String)
deriving DecidableEq

/-- Where a tag stands: the offset of its opening mark in characters, and the
two byte positions between which its body stands. -/
structure Span where
  offset : Nat
  bodyStart : Nat
  bodyEnd : Nat
deriving DecidableEq, Repr

/-- A tag or the text between two tags. The body of a tag is all that is
written between its marks, as it is written. -/
inductive Token where
  | plain (text : String) (markers : Markers)
  | tag (content : TagContent) (body : String) (markers : Markers) (span : Span)
deriving DecidableEq

end Mustache
