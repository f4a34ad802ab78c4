import Liveness.Config.Environment
import Liveness.Config.Parse

/-! A configuration over time: steps that replace it, override parts of it, or check it. Each
step goes on with what the one before has left, also where that has failed. -/

namespace Liveness.Config

inductive SessionStep where
  | parse (format : Format) (contents : String)
  /-- The default with some fields replaced, whether it is fit for use or not. -/
  | set (fields : Overrides)
  | override (fields : Overrides)
  | environment (e : Environment)
  | validate

inductive SessionError where
  | parse (cause : ParseError)
  | url (cause : Url.Error)
  | target (cause : BadTarget)
  | environment (cause : EnvironmentError)
  | unfit (cause : Unfit)

/-- Puts a configuration in the place of the old one, if there is one. -/
def replace (x : Except ε Config) : Method ε Unit := do
  MonadStateOf.set (← ofExcept x)

def SessionStep.apply : SessionStep → Method SessionError Unit
  | .parse format contents => replace ((Config.parse format contents).mapError .parse)
  | .set fields => replace ((default.override fields).mapError fun e => .url e.cause)
  | .override fields => fields.apply.adapt .target
  | .environment e => do
    let o ← ofExcept ((Overrides.ofEnvironment e).mapError .environment)
    o.apply.adapt .target
  | .validate => do
    ofExcept ((← MonadState.get).validate.mapError .unfit)

/-- What each step comes to: its error if it fails, and the configuration that it leaves. -/
def session (c : Config) : List SessionStep → List (Option SessionError × Config)
  | [] => []
  | s :: ss =>
    match s.apply.call c with
    | (.ok _, c) => (none, c) :: session c ss
    | (.error e, c) => (some e, c) :: session c ss

end Liveness.Config
