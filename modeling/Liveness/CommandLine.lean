import Liveness.Config.Load
import Liveness.Json.Writer
import Liveness.Probe.Basic
import Liveness.Text.Causes

/-! The command: it probes the configured target once and prints the report. -/

namespace Liveness.CommandLine

/-- Why nothing is probed. -/
inductive SetupError where
  | load (cause : Config.LoadError)
  | client (cause : Probe.ClientError)

def SetupError.chain : SetupError → List String
  | .load e => e.chain
  | .client e => e.chain

/-- How a process ends: by itself, with its exit code and what it prints as result and as
failure, or by a panic. -/
inductive Ending where
  | exited (exit : UInt8) (output : String) (failure : Option String)
  | panicked
  deriving DecidableEq, Repr

/-- A failure is told with its causes. -/
def SetupError.ending (e : SetupError) : Ending :=
  match e with
  | .load (.environment .notText) | .load (.environment .outOfList) => .panicked
  | _ => .exited 1 "" (some ("Error: " ++ Text.Causes.listed e.chain ++ "\n"))

/-- What is printed of a report. -/
def printed (r : Probe.Report) : String := r.toJson.pretty ++ "\n"

/-- The code tells whether the target has passed. -/
def ofReport (r : Probe.Report) : Ending :=
  .exited (if r.passed then 0 else 1) (printed r) none

/-- The probe that arguments and environment ask for. -/
def setup (files : Files.View) (args : List String) (e : Environment) :
    Except SetupError Probe := do
  let config ← (Config.load files args e).mapError .load
  (Probe.ofConfig config).mapError .client

variable {m : Type → Type} [Monad m] {κ : Type}

def run (w : Http.Wire m κ) (watch : m (m Probe.Stamp)) (files : Files.View) (args : List String)
    (e : Environment) : m Ending :=
  match setup files args e with
  | .error e => pure e.ending
  | .ok probe => ofReport <$> probe.report w watch

end Liveness.CommandLine
