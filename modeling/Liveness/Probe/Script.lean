import Liveness.Probe.Report

/-! A target that answers from a list, one reply a fetch, and keeps a record of what was
fetched. -/

namespace Liveness.Probe

structure Script where
  replies : List Outcome
  fetched : List Url

namespace Script

def ended : Failure := ⟨"script ended"⟩

def fetch (url : Url) : StateM Script Outcome := fun s =>
  match s.replies with
  | [] => (.error ended, ⟨[], s.fetched ++ [url]⟩)
  | reply :: replies => (reply, ⟨replies, s.fetched ++ [url]⟩)

end Script

end Liveness.Probe
