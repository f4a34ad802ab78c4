import Liveness.Text.Quoted
import Liveness.Text.Utf8

/-! Checks: named conditions on a response. -/

namespace Liveness

/-- What came back from the target: the body in full, and how long the exchange took. -/
structure Response where
  status : UInt16
  body : Text.Bytes
  elapsedMs : Nat

structure Check where
  name : String
  holds : Response → Bool

namespace Check

def statusIs200Name : String := "is status 200"

def statusIs200 : Check := ⟨statusIs200Name, fun r => r.status == 200⟩

/-- The checks of a run that names none. -/
def defaults : List Check := [statusIs200]

/-- A check shown in a log: its condition cannot be printed. -/
def describe (c : Check) : String :=
  "Check \x7b name: " ++ Text.Quoted.encode c.name ++ " \x7d"

end Check

end Liveness
