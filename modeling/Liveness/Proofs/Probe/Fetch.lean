import Liveness.Http.Network
import Liveness.Probe.Basic
import Liveness.Proofs.Http.Chain

/-! Probes over a link: what they give is told by what the fetch of their client comes to, and
the client of a configuration has its settings. -/

namespace Liveness.Probe

open Http

/-- The probe of a configuration has a client with its timeout and its user agent. -/
theorem ofConfig_eq_ok {c : Config} {p : Probe} (h : ofConfig c = .ok p) :
    p = withClient c ⟨c.timeoutSecs, c.userAgent.map Text.Utf8.encode⟩ := by
  rw [ofConfig] at h
  split at h
  · next client hclient =>
    cases h
    refine congrArg (withClient c) ?_
    cases ha : c.userAgent with
    | none =>
      rw [ha] at hclient
      cases hclient
      rfl
    | some agent =>
      rw [ha] at hclient
      obtain ⟨v, hv, rfl⟩ := Option.map_eq_some_iff.1 hclient
      rw [headerValue?] at hv
      split at hv <;> cases hv
      rfl
  · cases h

/-- A probe over a link is a fetch by its client, and a report on it. -/
theorem report_link (w : Wire (StateT Link Option) Unit) (p : Probe) (stamp : Stamp) (l : Link) :
    p.report w (pure (pure stamp)) l = (p.client.fetch w p.config.targetUrl l).map fun x =>
        (Report.ofOutcome stamp p.config.targetUrl p.checks (outcome x.1), x.2) := by
  simp only [report, execute, pure_bind, bind_map_left, bind_pure_comp, map_pure]
  rw [Link.map_apply]

/-- The report on a response that is no redirect. -/
theorem report_of_direct {w : Wire (StateT Link Option) Unit} (hnow : w.now = pure 0) {p : Probe}
    {r : Request} (hreq : p.client.firstRequest? p.config.targetUrl = some r)
    {l l₁ l₂ : Link} {a : Arrival Unit} {body : Text.Bytes}
    (hx : w.exchange p.client.deadline r l = some (.ok a, l₁)) (hr : redirect? r a.head = none)
    (hb : w.receive p.client.deadline a l₁ = some (.ok body, l₂)) (stamp : Stamp) :
    p.report w (pure (pure stamp)) l = some (Report.ofOutcome stamp p.config.targetUrl p.checks
      (.ok ⟨a.head.status.toUInt16, body, 0⟩), l₂) := by
  rw [report_link, Client.fetch_of_firstRequest w hnow hreq, follow_of_direct w hnow hx hr, hb]
  rfl

theorem run_link (c : Client) (u : Url) (l : Link) :
    run (fun u => outcome <$> c.fetch Link.wire u) u l =
      (c.fetch Link.wire u l).map fun x =>
        ((Report.ofOutcome ⟨"", "", 0⟩ u Check.defaults (outcome x.1)).checks, x.2) := by
  simp only [run, execute, pure_bind, bind_map_left, bind_pure_comp, map_pure, Functor.map_map]
  rw [Link.map_apply]

end Liveness.Probe
