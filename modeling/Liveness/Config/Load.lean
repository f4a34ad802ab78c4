import Liveness.Config.Environment
import Liveness.Config.Parse
import Liveness.Files.Tree

/-! Loading the configuration of a run: from a file, if one is named, and from the
environment. -/

namespace Liveness.Config

open Files (View)

/-- The variable that names a file when no argument does. -/
def pathVariable : String := "CONFIG_PATH"

inductive LoadError where
  | noFile (path : String)
  | file (cause : Files.FileError)
  | parse (cause : ParseError)
  | environment (cause : EnvironmentError)
  | target (cause : BadTarget)
  | unfit (cause : Unfit)

def LoadError.chain : LoadError → List String
  | .noFile path => ["Specified config file does not exist: " ++ path]
  | .file e => ["Failed to read config file", e.message]
  | .parse e => e.chain
  | .environment e => e.chain
  | .target e => [e.message]
  | .unfit e => [e.message]

section Path

variable {m : Type → Type} [Monad m]

/-- The path of the file: the first argument, or else the value of the variable unless it
is empty. The variable is looked up only if it counts. -/
def chosenPath? (lookup : String → m (Option String)) : List String → m (Option String)
  | path :: _ => return some path
  | [] => return (← lookup pathVariable).filter (· ≠ "")

/-- A chosen path has to lead somewhere. -/
def checkPath (files : View) : Option String → Except LoadError (Option String)
  | none => .ok none
  | some path => if files.hasEntry path then .ok (some path) else .error (.noFile path)

def resolvePath (files : View) (lookup : String → m (Option String)) (args : List String) :
    m (Except LoadError (Option String)) :=
  checkPath files <$> chosenPath? lookup args

end Path

/-- The configuration in the file at a path, in the format that the path tells. -/
def loadFile (files : View) (path : String) : Except LoadError Config :=
  ((files.readText path).mapError .file).bind fun text =>
  (parse (.ofPath path) text).mapError .parse

def loadChosen (files : View) : Option String → Except LoadError Config
  | none => .ok default
  | some path => loadFile files path

/-- The configuration of a run. What the environment gives goes over what the file gives,
and both the file alone and the result have to be fit for use. -/
def load (files : View) (args : List String) (e : Environment) : Except LoadError Config := do
  let path ← Id.run (resolvePath files (fun name => pure (e.text? name)) args)
  let c ← loadChosen files path
  let o ← (Overrides.ofEnvironment e).mapError .environment
  let c ← (c.override o).mapError .target
  (c.validate).mapError .unfit
  return c

end Liveness.Config
