import Toolbench.Text.Utf8

/-!
# YAML tokens

What the text of a YAML stream is made of: indicators, the starts and ends of
indented blocks, properties of nodes, and scalars.
-/

namespace Toolbench

namespace Yaml

inductive ScalarStyle where
  | plain
  | singleQuoted
  | doubleQuoted
  | literal
  | folded
deriving DecidableEq

/-- A tag: octets, as it may be spelled by any. -/
abbrev Tag := Text.Bytes

inductive Token where
  | streamEnd
  | versionDirective (major minor : Nat)
  | tagDirective (handle : String) (tagPrefix : Tag)
  | documentStart
  | documentEnd
  | blockSequenceStart
  | blockMappingStart
  | blockEnd
  | flowSequenceStart
  | flowSequenceEnd
  | flowMappingStart
  | flowMappingEnd
  | blockEntry
  | flowEntry
  | key
  | value
  | alias (name : String)
  | anchor (name : String)
  | tag (handle : String) (suffix : Tag)
  | scalar (style : ScalarStyle) (text : String)
deriving DecidableEq

end Yaml

end Toolbench
