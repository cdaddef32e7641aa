import ChanceDeck.Text.Utf8

/-!
# Tokens

The parts into which a document is cut before its nodes are put together. Besides the indicators
that are written there are those that indentation stands for: the starts and ends of block
collections, and the start of a key that is known only by the colon after it.
-/

set_option autoImplicit false
set_option relaxedAutoImplicit false

namespace ChanceDeck.Yaml

/-- A part of a document. -/
inductive Token where
  | versionDirective (major minor : Nat)
  | tagDirective (handle : Text) (expansion : Bytes)
  | documentStart
  | documentEnd
  | blockSequenceStart
  | blockMappingStart
  | blockEnd
  | flowSequenceStart
  | flowSequenceEnd
  | flowMappingStart
  | flowMappingEnd
  | blockEntry
  | flowEntry
  | key
  | value
  | alias (name : Text)
  | anchor (name : Text)
  | tag (handle : Text) (rest : Bytes)
  | scalar (text : Text) (plain : Bool)
  deriving DecidableEq, Repr

end ChanceDeck.Yaml
