namespace Mustache.Document.Yaml

/-! Tokens of a YAML document. Where the structure of block collections is told by
indentation alone, there are tokens for their starts and ends. -/

/-- How a scalar is written, as far as it matters for its meaning. -/
inductive Style where
  | plain
  | literal
  | other
deriving DecidableEq

inductive Token where
  | version (major minor : Nat)
  | tagDirective (handle stem : String)
  | documentStart
  | documentEnd
  | streamEnd
  | blockSequenceStart
  | blockMappingStart
  | blockEnd
  | flowSequenceStart
  | flowSequenceEnd
  | flowMappingStart
  | flowMappingEnd
  | blockEntry
  | flowEntry
  | key
  | value
  | reference (name : String)
  | anchor (name : String)
  | tag (handle suffix : String)
  | scalar (text : String) (style : Style)
deriving DecidableEq

end Mustache.Document.Yaml
