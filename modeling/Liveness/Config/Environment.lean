import Liveness.Config.Basic
import Liveness.Environment.Setting

/-! Overrides from the environment: the variables whose names begin with `PROBE_`, in
capitals or not. -/

namespace Liveness.Config

open Liveness.Environment (Setting)

/-- Why an environment gives no overrides. The first two are panics. -/
inductive EnvironmentError where
  /-- Some variable, of whatever name, is not a text. -/
  | notText
  /-- An index in a name leads out of its list. -/
  | outOfList
  | notInteger (text : String) (field : Field)
  | collection (setting : Setting) (expected : String) (field : Field)
  deriving DecidableEq, Repr

def kindOf : Setting → String
  | .text s => "string " ++ Text.Quoted.encode s
  | .table => "map"
  | .list => "sequence"

def expectedInteger : String := "an integer"

def EnvironmentError.IsPanic (e : EnvironmentError) : Prop := e = .notText ∨ e = .outOfList

/-- A panic has no causes to tell. -/
def EnvironmentError.chain : EnvironmentError → List String
  | .notText => []
  | .outOfList => []
  | .notInteger s f =>
    ["Failed to parse environment overrides",
      "invalid type: " ++ kindOf (.text s) ++ ", expected " ++ expectedInteger ++
        " for key `" ++ f.name ++ "` in the environment"]
  | .collection s expected f =>
    ["Failed to parse environment overrides",
      "invalid type: " ++ kindOf s ++ ", expected " ++ expected ++ " for key `" ++ f.name ++ "`"]

def start : List Char := ['p', 'r', 'o', 'b', 'e', '_']

/-- A decimal number that fits a word, with an optional plus sign. -/
def wordOf? (s : String) : Option UInt64 :=
  let digits := match s.toList with
    | '+' :: ds => ds
    | ds => ds
  if digits = [] || !digits.all Char.isDigit then none
  else
    let n : Nat := digits.foldl (fun n d => 10 * n + (d.toNat - 0x30)) 0
    if n < UInt64.size then some n.toUInt64 else none

/-- The words that stand for one and zero, in capitals or not. -/
def switchOf? (s : String) : Option UInt64 :=
  let word := s.map Char.toLower
  if ["true", "on", "yes"].contains word then some 1
  else if ["false", "off", "no"].contains word then some 0
  else none

def environmentText (f : Field) : Option Setting → Except EnvironmentError (Option String)
  | none => .ok none
  | some (.text s) => .ok (some s)
  | some s => .error (.collection s expectedAgent f)

def environmentSeconds (f : Field) : Option Setting → Except EnvironmentError (Option UInt64)
  | none => .ok none
  | some (.text s) =>
    match (switchOf? s).or (wordOf? s) with
    | some n => .ok (some n)
    | none => .error (.notInteger s f)
  | some s => .error (.collection s expectedInteger f)

/-- The overrides in some settings. -/
def Overrides.ofTree (t : Environment.Tree) : Except EnvironmentError Overrides := do
  let targetUrl ← environmentText .targetUrl (t.denoted? Field.targetUrl.name)
  let timeoutSecs ← environmentSeconds .timeoutSecs (t.denoted? Field.timeoutSecs.name)
  let userAgent ← environmentText .userAgent (t.denoted? Field.userAgent.name)
  return ⟨targetUrl, timeoutSecs, userAgent⟩

/-- The overrides that an environment gives. -/
def Overrides.ofEnvironment (e : Environment) : Except EnvironmentError Overrides :=
  match e.texts? with
  | .none => .error .notText
  | .some vs =>
    match Environment.tree? start vs with
    | .none => .error .outOfList
    | .some t => ofTree t

end Liveness.Config
