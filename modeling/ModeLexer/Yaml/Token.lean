import ModeLexer.Yaml.Tag

/-!
# The tokens of a YAML text

Blocks are told apart by indentation alone. In the sequence of tokens each of them has a start and
an end of its own.
-/

namespace ModeLexer.Yaml

/-- How a scalar is written. -/
inductive ScalarStyle where
  | plain
  | singleQuoted
  | doubleQuoted
  | literal
  | folded
  deriving DecidableEq, Repr

/-- A token. -/
inductive Token where
  | directive (d : Directive)
  | documentStart
  | documentEnd
  | blockSequenceStart
  | blockMappingStart
  | blockEnd
  | flowSequenceStart
  | flowSequenceEnd
  | flowMappingStart
  | flowMappingEnd
  /-- The hyphen before an item. -/
  | blockEntry
  /-- The comma between items. -/
  | flowEntry
  | key
  | value
  | anchor (name : String)
  /-- An alias. -/
  | reference (name : String)
  | tag (t : WrittenTag)
  | scalar (style : ScalarStyle) (text : String)
  deriving DecidableEq, Repr

end ModeLexer.Yaml
