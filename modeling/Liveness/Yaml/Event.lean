import Liveness.Yaml.Token.Basic

/-! The nodes of a YAML stream in the order of its text; a collection is what stands
between its start and its end. -/

namespace Liveness.Yaml

/-- What may stand in front of a node. -/
structure Properties where
  anchor : Option (List Char)
  tag : Option Text.Bytes
  deriving DecidableEq, Repr

def Properties.none : Properties := ⟨.none, .none⟩

inductive Content where
  | streamEnd
  | documentStart
  | documentEnd
  | alias (name : List Char)
  | scalar (properties : Properties) (text : List Char) (style : Style)
  | sequenceStart (properties : Properties)
  | sequenceEnd
  | mappingStart (properties : Properties)
  | mappingEnd
  deriving DecidableEq, Repr

/-- A scalar that is not written. -/
def Content.empty : Content := .scalar .none [] .plain

structure Event where
  content : Content
  mark : Mark
  deriving DecidableEq, Repr

end Liveness.Yaml
