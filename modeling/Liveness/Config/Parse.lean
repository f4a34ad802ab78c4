import Liveness.Config.Format
import Liveness.Config.Json
import Liveness.Config.Yaml

/-! The configuration that a file's text gives, provided it is fit for use. -/

namespace Liveness.Config

/-- Why a text gives no configuration. -/
inductive ParseError where
  | json (text : String) (cause : Json.Error)
  | yaml (cause : OfYaml.Error)
  | unfit (cause : Unfit)

/-- What went wrong, and what was the cause of that. -/
def ParseError.chain : ParseError → List String
  | .json text e => ["Failed to parse JSON config", e.message text]
  | .yaml e => ["Failed to parse YAML config", e.message]
  | .unfit e => [e.message]

/-- The fields that a text gives. -/
def Draft.read (format : Format) (text : String) : Except ParseError Draft :=
  match format with
  | .json => (Draft.ofJson text).mapError (.json text)
  | .yaml => (Draft.ofYaml text).mapError .yaml

def parse (format : Format) (text : String) : Except ParseError Config := do
  let c := (← Draft.read format text).finish
  (c.validate).mapError .unfit
  return c

end Liveness.Config
