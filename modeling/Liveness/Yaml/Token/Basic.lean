import Liveness.Text.Utf8
import Liveness.Yaml.Error

/-! The tokens of a YAML text. -/

namespace Liveness.Yaml

inductive Style where
  | plain
  | single
  | double
  | literal
  | folded
  deriving DecidableEq, Repr

inductive Symbol where
  | streamEnd
  | version (major minor : Nat)
  | tagDirective (handle : List Char) (target : Text.Bytes)
  | documentStart
  | documentEnd
  | blockSequenceStart
  | blockMappingStart
  | blockEnd
  | flowSequenceStart
  | flowSequenceEnd
  | flowMappingStart
  | flowMappingEnd
  | blockEntry
  | flowEntry
  | key
  | value
  | alias (name : List Char)
  | anchor (name : List Char)
  | tag (handle : List Char) (suffix : Text.Bytes)
  | scalar (text : List Char) (style : Style)
  deriving DecidableEq, Repr

structure Token where
  symbol : Symbol
  start : Mark
  finish : Mark
  deriving DecidableEq, Repr

end Liveness.Yaml
