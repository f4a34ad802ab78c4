/-! A failure with its causes, each of which brought about the one before it: on one line,
or as a list under the failure. -/

namespace Liveness.Text.Causes

def oneLine (chain : List String) : String := String.intercalate ": " chain

/-- Causes are numbered if there are several. -/
def numbered (n : Nat) : List String → String
  | [] => ""
  | c :: cs => "\n    " ++ n.repr ++ ": " ++ c ++ numbered (n + 1) cs

def listed : List String → String
  | [] => ""
  | [failure] => failure
  | [failure, cause] => failure ++ "\n\nCaused by:\n    " ++ cause
  | failure :: causes => failure ++ "\n\nCaused by:" ++ numbered 0 causes

end Liveness.Text.Causes
