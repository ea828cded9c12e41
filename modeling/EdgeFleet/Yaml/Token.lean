/-!
# Tokens of YAML
-/

namespace EdgeFleet.Yaml

/-- How a scalar was written, as far as it matters for what the scalar means. -/
inductive Style where
  | plain
  /-- Line by line, as it stands. -/
  | literal
  | quoted
  deriving Repr, DecidableEq, Inhabited

/-- A token. The `…Start` tokens of block collections and `blockEnd` come from the indentation,
and `key` can come from a colon further on. -/
inductive Token where
  | version (major minor : Nat)
  | tagDirective (handle lead : String)
  | documentStart
  | documentEnd
  | streamEnd
  | blockSequenceStart
  | blockMappingStart
  | blockEnd
  | flowSequenceStart
  | flowSequenceEnd
  | flowMappingStart
  | flowMappingEnd
  | blockEntry
  | flowEntry
  | key
  | value
  | reference (name : String)
  | anchor (name : String)
  | tag (handle suffix : String)
  | scalar (style : Style) (text : String)
  deriving Repr, DecidableEq, Inhabited

end EdgeFleet.Yaml
