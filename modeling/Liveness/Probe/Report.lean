import Liveness.Check.Results
import Liveness.Url.Printer

/-! One probe of a target: a single fetch, every check on its outcome, and the record of
both. A fetch that fails is an outcome like any other. -/

namespace Liveness.Probe

/-- Why an exchange was not completed. -/
structure Failure where
  reason : String
  deriving DecidableEq, Repr

def Failure.message (f : Failure) : String := "Connection error: " ++ f.reason

abbrev Outcome := Except Failure Response

/-- What tells one run from another: its identifier, its start and how long it took. A time that
does not fit its word counts as the longest that does. -/
structure Stamp where
  runId : String
  startedAt : String
  elapsedMs : UInt64

structure Report where
  stamp : Stamp
  target : Url
  status : Option UInt16
  error : Option String
  checks : Check.Results

namespace Report

def ofOutcome (stamp : Stamp) (target : Url) (checks : List Check) : Outcome → Report
  | .ok r => ⟨stamp, target, some r.status, none, Check.evaluate (some r) checks⟩
  | .error f => ⟨stamp, target, none, some f.message, Check.evaluate none checks⟩

def passed (r : Report) : Bool := r.checks.passed

def toJson (r : Report) : Json.Value := .object
  [("run_id", .string r.stamp.runId),
   ("target", .string r.target.toText),
   ("started_at", .string r.stamp.startedAt),
   ("response_time_ms", .number r.stamp.elapsedMs.toNat),
   ("status", .ofOption (fun s => .number s.toNat) r.status),
   ("error", .ofOption .string r.error),
   ("checks", r.checks.toJson)]

end Report

variable {m : Type → Type} [Monad m]

/-- Fetches the target once and reports. The watch is started before the fetch and read
behind it. -/
def execute (fetch : Url → m Outcome) (watch : m (m Stamp)) (target : Url)
    (checks : List Check) : m Report := do
  let stop ← watch
  let outcome ← fetch target
  return Report.ofOutcome (← stop) target checks outcome

/-- The results of the checks that every probe makes. -/
def run (fetch : Url → m Outcome) (target : Url) : m Check.Results := do
  let report ← execute fetch (pure (pure ⟨"", "", 0⟩)) target Check.defaults
  return report.checks

end Liveness.Probe
