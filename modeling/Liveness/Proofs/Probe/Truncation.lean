import Liveness.Proofs.Http.Chain
import Liveness.Proofs.Http.Prefix
import Liveness.Proofs.Http.Waiting
import Liveness.Proofs.Probe.Fetch
import Liveness.Proofs.Probe.Runs

/-! Responses that are cut off. A response that tells its own end is not found in any part
of its bytes, however much of the head or the body that part has, so the fetch fails. -/

namespace Liveness

namespace Http

open Text

/-- The bytes are a response whose length is given, or that comes in chunks, and nothing
else. -/
def Delimited (bs : Bytes) : Prop :=
  ∃ head framing rest body, readFinalHead bs = .done (head, framing) rest ∧
    framing ≠ .untilClose ∧ readBody framing true rest = .done body []

/-- A response can be read from the reply, whatever else is in it. -/
def Reply.IsWhole (reply : Reply) : Prop :=
  ∃ head framing rest body left, readFinalHead reply.bytes = .done (head, framing) rest ∧
    readBody framing reply.closes rest = .done body left

theorem not_isWhole_nil : ¬ Reply.IsWhole ⟨[], true⟩ := by
  rintro ⟨head, framing, rest, body, left, hh, -⟩
  rw [readFinalHead] at hh
  cases hh

/-- What is read from the part would have been read from the whole, with something left. -/
theorem not_isWhole_of_prefix {whole part : Bytes} (h : Delimited whole) (hp : part <+: whole)
    (hne : part ≠ whole) : ¬ Reply.IsWhole ⟨part, true⟩ := by
  obtain ⟨missing, rfl⟩ := hp
  have hmissing : missing ≠ [] := by
    rintro rfl
    exact hne (List.append_nil part).symm
  obtain ⟨head, framing, rest, body, hh, hf, hb⟩ := h
  rintro ⟨head', framing', rest', body', left, hh', hb'⟩
  have hsame := readFinalHead_stable part _ _ hh' missing
  rw [hh] at hsame
  cases hsame
  have hleft := readBody_stable hf true rest' body' left hb' missing
  rw [hb] at hleft
  injection hleft with _ hleft
  exact hmissing (List.append_eq_nil_iff.1 hleft.symm).2

/-- Where no reply is whole, no redirect leads to a response. -/
theorem follow_ne_ok {start : Nat} {deadline : Option Nat} {n : Nat} {r : Request} {l l' : Link}
    {resp : Response} (h : ∀ reply ∈ l.network.replies, ¬ reply.IsWhole) :
    follow Link.wire start deadline n r l ≠ some (.ok resp, l') := by
  intro hok
  obtain ⟨a, l₁, body, hl, hb, -⟩ := leads_of_follow hok
  obtain ⟨reply, ho, hread, hc⟩ := offers_of_leads hl
  obtain ⟨left, hb⟩ := (Link.receive_eq_some hb).2 body rfl
  have hw : reply.IsWhole := ⟨_, _, _, body, left, hread, hc ▸ hb⟩
  rcases ho with ho | rfl
  · exact h reply ho hw
  · exact not_isWhole_nil hw

/-- A fetch ends with a fault where every reply is closed without being whole. -/
theorem fetch_fails {c : Client} {u : Url} {l : Link}
    (h : ∀ reply ∈ l.network.replies, reply.closes = true ∧ ¬ reply.IsWhole) :
    ∃ f l', c.fetch Link.wire u l = some (.error f, l') := by
  rcases hx : c.fetch Link.wire u l with _ | ⟨f | resp, l'⟩
  · obtain ⟨-, reply, hr, hopen, -⟩ := fetch_eq_none hx
    rw [(h reply hr).1] at hopen
    cases hopen
  · exact ⟨f, l', rfl⟩
  · cases hreq : c.firstRequest? u with
    | none =>
      obtain ⟨f, hf⟩ := Client.fetch_of_firstRequest_none Link.wire hreq l
      cases hf.symm.trans hx
    | some r =>
      rw [Client.fetch_of_firstRequest Link.wire rfl hreq] at hx
      exact absurd hx (follow_ne_ok fun reply hr => (h reply hr).2)

end Http

namespace Probe

open Http

/-- A server that sends a part of a response, and then closes the connection, is reported
as a failure: no status is given, though the part may have one, and every check fails. -/
theorem report_of_truncated (p : Probe) (stamp : Stamp) (l : Link) {whole part : Text.Bytes}
    (h : Delimited whole) (hp : part <+: whole) (hne : part ≠ whole)
    (hl : l.network.replies = [⟨part, true⟩]) :
    ∃ r l', p.report Link.wire (pure (pure stamp)) l = some (r, l') ∧ r.status = none ∧
      (∃ reason, r.error = some ("Connection error: " ++ reason)) ∧
      (∀ c ∈ p.checks, r.checks.get? c.name = some false) ∧
      ∀ e ∈ r.checks.entries, e.2 = false := by
  have hall : ∀ reply ∈ l.network.replies, reply.closes = true ∧ ¬ reply.IsWhole := by
    intro reply hr
    rw [hl, List.mem_singleton] at hr
    subst hr
    exact ⟨rfl, not_isWhole_of_prefix h hp hne⟩
  obtain ⟨f, l', hf⟩ := fetch_fails (c := p.client) (u := p.config.targetUrl) hall
  refine ⟨_, l', by rw [report_link, hf]; rfl, rfl, ⟨f.message, rfl⟩,
    fun c hc => get?_evaluate_none hc, fun e he => snd_of_mem_evaluate_none he⟩

/-- The head is complete and says 200, and one byte of the body is missing. -/
theorem report_of_truncated_body :
    let whole := Text.Utf8.encode "HTTP/1.1 200 OK\r\nContent-Length: 2\r\n\r\nok"
    let part := Text.Utf8.encode "HTTP/1.1 200 OK\r\nContent-Length: 2\r\n\r\no"
    let p := Probe.withClient Config.default Client.plain
    let l := Link.ofNetwork ⟨fun _ => none, [⟨part, true⟩]⟩
    Delimited whole ∧ part <+: whole ∧ part ≠ whole ∧
      ∃ r l', p.report Link.wire (pure (pure ⟨"", "", 0⟩)) l = some (r, l') ∧ r.status = none := by
  intro whole part p l
  have hw : Delimited whole := by
    refine ⟨⟨true, 200, [⟨"content-length", Text.Utf8.encode "2"⟩]⟩, .length 2,
      Text.Utf8.encode "ok", Text.Utf8.encode "ok", ?_, by decide, rfl⟩
    rw [readFinalHead]
    rfl
  have hp : part <+: whole := by decide +kernel
  have hne : part ≠ whole := by decide +kernel
  obtain ⟨r, l', hr, hs, -⟩ := report_of_truncated p ⟨"", "", 0⟩ l hw hp hne rfl
  exact ⟨hw, hp, hne, r, l', hr, hs⟩

end Probe

end Liveness
