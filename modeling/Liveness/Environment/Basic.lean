import Liveness.Text.Utf8

/-! The environment of a process: variables in the order in which they were first set. -/

namespace Liveness

open Text

/-- Names and values are byte strings, and need not be texts. -/
structure Environment where
  entries : List (Bytes × Bytes)

namespace Environment

def empty : Environment := ⟨[]⟩

/-- Replaces the value at the name, or adds a variable at the end. -/
def set (e : Environment) (name value : Bytes) : Environment :=
  if e.entries.any (·.1 = name) then
    ⟨e.entries.map fun v => if v.1 = name then (name, value) else v⟩
  else ⟨e.entries ++ [(name, value)]⟩

def ofList (vs : List (Bytes × Bytes)) : Environment :=
  vs.foldl (fun e v => e.set v.1 v.2) empty

def get? (e : Environment) (name : Bytes) : Option Bytes := e.entries.lookup name

/-- The value of a variable, if it is set to a text. -/
def text? (e : Environment) (name : String) : Option String :=
  (e.get? (Utf8.encode name)).bind Utf8.decode?

/-- The variables as texts, provided all of them are. -/
def texts? (e : Environment) : Option (List (String × String)) :=
  e.entries.mapM fun v =>
    match Utf8.decode? v.1, Utf8.decode? v.2 with
    | some name, some value => some (name, value)
    | _, _ => none

end Environment

end Liveness
