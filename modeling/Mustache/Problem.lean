namespace Mustache

/-! What can be wrong with a template source, and how it is said. -/

inductive Problem where
  | unclosedTag
  | missingName
  /-- A tag with three braces ends at the closing mark without a third brace. -/
  | missingBrace (closing : String)
  | unclosedRedelimit
  | malformedRedelimit (closing : String)
  | missingMark
  | unexpectedClosing (name : String)
  | closingMismatch (expected found : String)
  | unterminatedSection (name : String)
deriving DecidableEq, Repr

namespace Problem

def message : Problem → String
  | unclosedTag => "unclosed tag"
  | missingName => "missing tag name"
  | missingBrace closing => "unescaped tag must end with `\x7d" ++ closing ++ "`"
  | unclosedRedelimit => "unclosed set-delimiters tag"
  | malformedRedelimit closing => "malformed set-delimiters tag, expected `" ++ closing ++ "`"
  | missingMark => "set-delimiters tag needs an open and a close marker"
  | unexpectedClosing name => "unexpected closing tag `" ++ name ++ "`"
  | closingMismatch expected found =>
    "closing tag name mismatch: expected `" ++ expected ++ "`, found `" ++ found ++ "`"
  | unterminatedSection name => "unterminated section `" ++ name ++ "`"

end Problem

/-- A problem with the place of the tag that has it, counted in characters from
the start of the source. -/
structure Defect where
  offset : Nat
  problem : Problem
deriving DecidableEq, Repr

end Mustache
