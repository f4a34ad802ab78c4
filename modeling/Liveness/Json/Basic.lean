/-! Documents: the values that are written out. Numbers are natural, and the members of
an object keep their order. -/

namespace Liveness.Json

inductive Value where
  | null
  | bool (b : Bool)
  | number (n : Nat)
  | string (s : String)
  | array (items : List Value)
  | object (members : List (String × Value))

/-- An absent value is written as `null`. -/
def Value.ofOption {α : Type} (f : α → Value) : Option α → Value
  | none => .null
  | some a => f a

end Liveness.Json
