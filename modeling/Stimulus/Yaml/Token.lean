/-!
The tokens of a YAML text.  Indentation has become explicit: a collection in block style starts and
ends with tokens of its own.
-/

namespace Stimulus.Yaml

/-- How a scalar was written. -/
inductive Style where
  | plain
  | quoted
  | block
  deriving DecidableEq

inductive Token where
  | versionDirective (major minor : Nat)
  | tagDirective (handle expansion : String)
  | documentStart
  | documentEnd
  | streamEnd
  | blockSequenceStart
  | blockMappingStart
  | blockEnd
  | flowSequenceStart
  | flowSequenceEnd
  | flowMappingStart
  | flowMappingEnd
  | blockEntry
  | flowEntry
  | key
  | value
  | alias (name : String)
  | anchor (name : String)
  | tag (handle suffix : String)
  | scalar (text : String) (style : Style)
  /-- No token could be made of what follows. -/
  | fault
  deriving DecidableEq

end Stimulus.Yaml
