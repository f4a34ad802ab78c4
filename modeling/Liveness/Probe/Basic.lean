import Liveness.Config.Basic
import Liveness.Http.Client
import Liveness.Probe.Report

/-! A probe: a configured target, the client that fetches it, and the checks that are made
of every response. It can be run any number of times. -/

namespace Liveness

structure Probe where
  config : Config
  client : Http.Client
  checks : List Check

namespace Probe

/-- Why there is no client with the settings of a configuration: no header can hold the
user agent. -/
inductive ClientError where
  | badUserAgent
  deriving DecidableEq, Repr

def ClientError.chain : ClientError → List String
  | .badUserAgent =>
    ["Failed to create HTTP client", "builder error: failed to parse header value",
      "failed to parse header value"]

def withClient (config : Config) (client : Http.Client) : Probe :=
  ⟨config, client, Check.defaults⟩

/-- A probe whose client has the settings of the configuration. -/
def ofConfig (config : Config) : Except ClientError Probe :=
  match Http.Client.ofSettings? config.timeoutSecs config.userAgent with
  | some client => .ok (withClient config client)
  | none => .error .badUserAgent

def withChecks (p : Probe) (checks : List Check) : Probe := { p with checks }

/-- What a fetch by a client comes to. -/
def outcome : Except Http.Fault Response → Outcome
  | .ok r => .ok r
  | .error e => .error ⟨e.message⟩

variable {m : Type → Type} [Monad m] {κ : Type}

/-- Fetches the target once and reports. -/
def report (p : Probe) (w : Http.Wire m κ) (watch : m (m Stamp)) : m Report :=
  execute (fun u => outcome <$> p.client.fetch w u) watch p.config.targetUrl p.checks

end Probe

end Liveness
