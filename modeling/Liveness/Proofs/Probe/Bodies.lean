import Liveness.Proofs.Http.Messages
import Liveness.Proofs.Probe.Fetch
import Liveness.Proofs.Probe.Redirects

/-! The verdict on a response and the way in which the end of its body is told. Only the status
and the bytes of the body count. -/

namespace Liveness

namespace Check

/-- A check that does not look at the time. -/
def Timeless (c : Check) : Prop :=
  ∀ r elapsed, c.holds { r with elapsedMs := elapsed } = c.holds r

theorem evaluate_of_timeless {checks : List Check} (h : ∀ c ∈ checks, c.Timeless)
    (status : UInt16) (body : Text.Bytes) (t t' : Nat) :
    evaluate (some ⟨status, body, t⟩) checks = evaluate (some ⟨status, body, t'⟩) checks := by
  refine congrArg Results.ofList (List.map_congr_left fun c hc => ?_)
  exact congrArg (c.name, ·) (h c hc ⟨status, body, t'⟩ t)

end Check

namespace Probe

open Http

/-- The first request of a probe is answered with a reply, on a new connection or on one that
has been kept. -/
def IsAnswered (p : Probe) (l : Link) (reply : Reply) : Prop :=
  ∃ r a others, p.client.firstRequest? p.config.targetUrl = some r ∧
    address? r.url = some a ∧ l.network.fault? a = none ∧ l.network.replies = reply :: others

/-- The response that begins with the head comes from the first request. -/
theorem exchange_of_isAnswered {p : Probe} {l : Link} {reply : Reply}
    (h : IsAnswered p l reply) {head : Head} {framing : Framing} {rest : Text.Bytes}
    (hread : readFinalHead reply.bytes = .done (head, framing) rest) :
    ∃ r a l', p.client.firstRequest? p.config.targetUrl = some r ∧
      Link.exchange p.client.deadline r l =
        some (.ok ⟨⟨(), a, rest, reply.closes⟩, head, framing⟩, l') := by
  obtain ⟨r, a, others, hreq, ha, hf, hreplies⟩ := h
  exact ⟨r, a, _, hreq, Link.exchange_of_reply hf ha hreplies hread⟩

/-- The report on a response that is no redirect says its status, and what the checks say of
this status and the body, whichever way the end of the body is told. -/
theorem verdict_of_framing (p : Probe) (l : Link) (stamp : Stamp) (w : WrittenHead)
    (hshort : w.encode.length ≤ maxHead) (hs : HasBody w.status)
    (hlocation : w.head.first? "location" = none) {body text : Text.Bytes} {closes : Bool}
    (hf : Frames w.head body text closes)
    (hanswer : IsAnswered p l ⟨w.encode ++ text, closes⟩)
    (htime : ∀ c ∈ p.checks, c.Timeless) :
    ∃ report l', p.report Link.wire (pure (pure stamp)) l = some (report, l') ∧
      report.status = some w.status.toUInt16 ∧ report.error = none ∧
      ∀ elapsed, report.checks =
        Check.evaluate (some ⟨w.status.toUInt16, body, elapsed⟩) p.checks := by
  obtain ⟨framing, hframing, hbody⟩ := readBody_of_frames hf hs
  obtain ⟨r, a, l₁, hreq, hx⟩ :=
    exchange_of_isAnswered hanswer (w.readFinalHead_encode hshort hs hframing text)
  have hr : redirect? r w.head = none := by
    rw [redirect?, location?, hlocation]
    simp
  have hb : Link.receive p.client.deadline ⟨⟨(), a, text, closes⟩, w.head, framing⟩ l₁ =
      some (.ok body, l₁.keep w.head ⟨(), a, [], closes⟩) := by
    rw [Link.receive_apply, Link.readArrival, hbody]
  refine ⟨_, _, report_of_direct (w := Link.wire) rfl hreq hx hr hb stamp, rfl, rfl, ?_⟩
  intro elapsed
  exact Check.evaluate_of_timeless htime w.status.toUInt16 body 0 elapsed

/-- The head of a response with status 200 and a body in chunks. -/
def chunkedHead : WrittenHead where
  current := true
  status := 200
  reason := Text.Utf8.encode " OK"
  fields := [⟨Text.Utf8.encode "Transfer-Encoding", Text.Utf8.encode " chunked", by decide,
    by decide, List.all_eq_true.1 (by decide), List.all_eq_true.1 (by decide)⟩]
  threeDigits := by decide
  reasonBytes := List.all_eq_true.1 (by decide)
  reasonBlank := by
    intro b hb
    cases hb
    rfl
  atMostHundred := by decide

/-- The two bytes of a body in a chunk each, the size of the second with a zero in front and an
extension. -/
def twoChunks : Text.Bytes := Text.Utf8.encode "1\r\no\r\n01;x\r\nk\r\n0\r\n\r\n"

theorem isChunked_twoChunks :
    IsChunked 1 [Text.Utf8.encode "o", Text.Utf8.encode "k"] twoChunks := by
  have hone : IsHex 1 [0x31] := .digit ⟨by decide, .inl rfl⟩
  have hzero : IsHex 0 [0x30] := .digit ⟨by decide, .inl rfl⟩
  have hzeroOne : IsHex 1 [0x30, 0x31] := hzero.more (d := 1) ⟨by decide, .inl rfl⟩
  have hnone : IsExtension 0 [] := .blanks fun b hb => nomatch hb
  have hext : IsExtension 1 (Text.Utf8.encode ";x") :=
    @IsExtension.text [] (Text.Utf8.encode "x") (fun b hb => nomatch hb) (by decide) (by decide)
  have hlast : IsChunked 0 [] (Text.Utf8.encode "0\r\n\r\n") :=
    @IsChunked.last _ _ _ [] hzero hnone fun line hline => nomatch hline
  have hsecond : IsChunked 1 [Text.Utf8.encode "k"] (Text.Utf8.encode "01;x\r\nk\r\n0\r\n\r\n") :=
    @IsChunked.chunk 1 0 _ _ (Text.Utf8.encode "k") _ _ hzeroOne hext (by decide) (by decide) hlast
  exact @IsChunked.chunk 0 1 _ _ (Text.Utf8.encode "o") _ _ hone hnone (by decide) (by decide)
    hsecond

theorem verdict_of_framing_chunked :
    ∃ report l', (withClient Config.default Client.plain).report Link.wire
        (pure (pure ⟨"", "", 0⟩)) (answering [⟨chunkedHead.encode ++ twoChunks, false⟩]) =
          some (report, l') ∧ report.status = some 200 ∧ report.error = none ∧
      report.checks =
        Check.evaluate (some ⟨200, Text.Utf8.encode "ok", 7⟩) Check.defaults := by
  have hanswer : IsAnswered (withClient Config.default Client.plain)
      (answering [⟨chunkedHead.encode ++ twoChunks, false⟩])
      ⟨chunkedHead.encode ++ twoChunks, false⟩ :=
    ⟨firstRequest, localAddress, [], firstRequest?_plain, address?_defaultTarget,
      fault?_answering _, rfl⟩
  have hframes : Frames chunkedHead.head (Text.Utf8.encode "ok") twoChunks false :=
    .chunks rfl rfl isChunked_twoChunks (by decide) rfl
  have htime : ∀ c ∈ Check.defaults, c.Timeless := by
    intro c hc
    rw [List.mem_singleton.1 hc]
    exact fun r elapsed => rfl
  obtain ⟨report, l', hreport, hstatus, herror, hchecks⟩ := verdict_of_framing
    (withClient Config.default Client.plain) _ ⟨"", "", 0⟩ chunkedHead (by decide) (by decide)
    rfl hframes hanswer htime
  exact ⟨report, l', hreport, hstatus, herror, hchecks 7⟩

end Probe

end Liveness
