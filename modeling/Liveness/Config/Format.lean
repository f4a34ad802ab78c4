import Liveness.Files.Path

/-! The two formats of a configuration file, told apart by the extension. -/

namespace Liveness.Config

inductive Format where
  | yaml
  | json
  deriving DecidableEq, Repr

/-- Small-letter `yaml` and `yml` are YAML; everything else is JSON. -/
def Format.ofPath (path : String) : Format :=
  match (Files.fileName? path).bind Files.extension? with
  | some ['y', 'a', 'm', 'l'] => .yaml
  | some ['y', 'm', 'l'] => .yaml
  | _ => .json

end Liveness.Config
