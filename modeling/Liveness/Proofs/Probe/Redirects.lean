import Liveness.Proofs.Http.Chain
import Liveness.Proofs.Http.Prefix
import Liveness.Proofs.Probe.Fetch
import Liveness.Proofs.Probe.Runs
import Liveness.Proofs.Config.RoundTrip

/-! What the status check says of a target that redirects. The verdict is on the last response
of a chain, so the first one may have the status of a redirect and the check still hold. -/

namespace Liveness

namespace Http

open Text

theorem lt_of_readDigits {n k m : Nat} {bs rest : Bytes}
    (h : readDigits n k bs = .done m rest) : m < (n + 1) * 10 ^ k := by
  fun_induction readDigits n k bs with
  | case1 => cases h; simp
  | case2 => cases h
  | case3 n k b bs hb ih =>
    have hdigit : b.toNat ≤ 0x39 := by
      simp only [isDigitByte, Bool.and_eq_true, decide_eq_true_eq] at hb
      exact hb.2
    calc m < (10 * n + (b.toNat - 0x30) + 1) * 10 ^ k := ih h
      _ ≤ ((n + 1) * 10) * 10 ^ k := Nat.mul_le_mul_right _ (by omega)
      _ = (n + 1) * 10 ^ (k + 1) := by rw [Nat.mul_assoc, Nat.pow_succ']
  | case4 => cases h

theorem status_lt_of_readHead {bs rest : Bytes} {head : Head}
    (h : readHead bs = .done head rest) : head.status < 1000 := by
  have hlines := (readHead_eq_done h).1
  rw [readLines] at hlines
  simp only [Reading.bind_eq_done_iff, Reading.map_eq_done_iff] at hlines
  obtain ⟨_, _, -, _, _, -, status, _, hstatus, _, _, -, _, -, rfl⟩ := hlines
  rw [readStatus.eq_def] at hstatus
  split at hstatus
  · cases hstatus
  · split at hstatus
    · exact lt_of_readDigits hstatus
    · cases hstatus

/-- A status has three digits, so that it is kept by a word. -/
theorem status_lt {bs rest : Bytes} {head : Head} {f : Framing}
    (h : readFinalHead bs = .done (head, f) rest) : head.status < 1000 := by
  fun_induction readFinalHead bs with
  | case1 => cases h
  | case2 => cases h
  | case3 _ _ _ _ _ ih => exact ih h
  | case4 _ _ _ hread _ _ _ => cases h; exact status_lt_of_readHead hread
  | case5 => cases h

theorem toUInt16_eq_iff {bs rest : Bytes} {head : Head} {f : Framing}
    (h : readFinalHead bs = .done (head, f) rest) :
    head.status.toUInt16 = 200 ↔ head.status = 200 := by
  have hlt := status_lt h
  rw [← UInt16.toNat_inj]
  simp
  omega

/-- The response is a redirect, and the last one that it leads to is whole and says 200. -/
def LeadsToOk (deadline : Option Nat) (r : Request) (a : Arrival Unit) (l : Link) : Prop :=
  ∃ next l₁ last l₂ body l₃, redirect? r a.head = some next ∧
    Link.discard a l = some ((), l₁) ∧ Leads deadline (maxRedirects - 1) next l₁ last l₂ ∧
    Link.receive deadline last l₂ = some (.ok body, l₃) ∧ last.head.status = 200

variable {c : Client} {u : Url} {r : Request} {l l₁ : Link} {a : Arrival Unit}

/-- A fetch that is answered with another status at first brings the status 200 only from
behind a redirect. -/
theorem fetch_ok_iff (hreq : c.firstRequest? u = some r)
    (hx : Link.exchange c.deadline r l = some (.ok a, l₁)) (hs : a.head.status ≠ 200) :
    (∃ resp l', c.fetch Link.wire u l = some (.ok resp, l') ∧ resp.status = 200) ↔
      LeadsToOk c.deadline r a l₁ := by
  rw [Client.fetch_of_firstRequest Link.wire rfl hreq]
  constructor
  · rintro ⟨resp, l', hfollow, hstatus⟩
    obtain ⟨a', l₁', hx', h⟩ := follow_eq_ok_step hfollow
    cases hx.symm.trans hx'
    rcases h with ⟨-, body, -, rfl⟩ | ⟨next, l₂, fewer, hr, hd, hn, hfollow⟩
    · obtain ⟨-, _, -, hread, -⟩ := Link.exchange_eq_ok hx
      exact absurd ((toUInt16_eq_iff hread).1 hstatus) hs
    · cases hn
      obtain ⟨last, l₃, body, hl, hb, rfl⟩ := leads_of_follow hfollow
      obtain ⟨_, -, hread, -⟩ := offers_of_leads hl
      exact ⟨next, l₂, last, l₃, body, l', hr, hd, hl, hb, (toUInt16_eq_iff hread).1 hstatus⟩
  · rintro ⟨next, l₂, last, l₃, body, l', hr, hd, hl, hb, hstatus⟩
    obtain ⟨_, -, hread, -⟩ := offers_of_leads hl
    refine ⟨⟨last.head.status.toUInt16, body, 0 - 0⟩, l', ?_, (toUInt16_eq_iff hread).2 hstatus⟩
    rw [maxRedirects, follow_succ_of_redirect Link.wire hx hr hd]
    exact follow_of_leads hl hb

end Http

namespace Probe

open Http

variable {c : Client} {u : Url} {r : Request} {l l₁ : Link} {a : Arrival Unit}

/-- The status check is there whatever comes of a fetch. -/
theorem get?_defaults_cases (stamp : Stamp) (target : Url) (o : Outcome) :
    (Report.ofOutcome stamp target Check.defaults o).checks.get? Check.statusIs200Name =
        some true ∨
      (Report.ofOutcome stamp target Check.defaults o).checks.get? Check.statusIs200Name =
        some false := by
  cases o with
  | ok resp =>
    have h : (Report.ofOutcome stamp target Check.defaults (.ok resp)).checks.get?
        Check.statusIs200Name = some (resp.status == 200) := rfl
    rw [h]
    cases resp.status == 200 <;> simp
  | error f => exact .inr rfl

/-- A run is what its fetch comes to, and the check holds for a response of status 200. -/
theorem run_eq_some {results : Check.Results} {l' : Link}
    (h : run (fun u => outcome <$> c.fetch Link.wire u) u l = some (results, l')) :
    (results.get? Check.statusIs200Name = some true ∨
      results.get? Check.statusIs200Name = some false) ∧
    (results.get? Check.statusIs200Name = some true ↔
      ∃ resp, c.fetch Link.wire u l = some (.ok resp, l') ∧ resp.status = 200) := by
  rw [run_link, Option.map_eq_some_iff] at h
  obtain ⟨⟨y, l''⟩, hfetch, h⟩ := h
  cases h
  refine ⟨get?_defaults_cases _ _ _, (get?_defaults_iff _ _ _).trans ?_⟩
  rw [hfetch]
  cases y with
  | ok resp => simp [outcome]
  | error f => simp [outcome]

theorem run_ok_iff :
    (∃ results l', run (fun u => outcome <$> c.fetch Link.wire u) u l = some (results, l') ∧
      results.get? Check.statusIs200Name = some true) ↔
    ∃ resp l', c.fetch Link.wire u l = some (.ok resp, l') ∧ resp.status = 200 := by
  constructor
  · rintro ⟨results, l', hrun, htrue⟩
    obtain ⟨resp, hfetch⟩ := (run_eq_some hrun).2.1 htrue
    exact ⟨resp, l', hfetch⟩
  · rintro ⟨resp, l', hfetch, hstatus⟩
    refine ⟨_, l', by rw [run_link, hfetch]; rfl, ?_⟩
    exact (get?_defaults_iff _ _ _).2 ⟨resp, rfl, hstatus⟩

/-- A probe with the usual checks reports the results of a run. -/
theorem checks_report (p : Probe) (stamp : Stamp) (l : Link) (h : p.checks = Check.defaults) :
    (p.report Link.wire (pure (pure stamp)) l).map (fun x => (x.1.checks, x.2)) =
      run (fun u => outcome <$> p.client.fetch Link.wire u) p.config.targetUrl l := by
  rw [report_link, run_link, h, Option.map_map]
  refine congrArg (Option.map · _) (funext fun x => ?_)
  exact Prod.ext (checks_ofOutcome ..) rfl

/-- The verdict of the status check when the first response has another status than 200. It
is that the check fails, unless the response is a redirect behind which there is a response
with that status. -/
theorem verdict_of_first_response (hreq : c.firstRequest? u = some r)
    (hx : Link.exchange c.deadline r l = some (.ok a, l₁)) (hs : a.head.status ≠ 200) :
    (redirect? r a.head = none → ∀ y l₂, Link.receive c.deadline a l₁ = some (y, l₂) →
      ∃ results, run (fun u => outcome <$> c.fetch Link.wire u) u l = some (results, l₂) ∧
        results.get? Check.statusIs200Name = some false) ∧
    (LeadsToOk c.deadline r a l₁ ↔
      ∃ results l', run (fun u => outcome <$> c.fetch Link.wire u) u l = some (results, l') ∧
        results.get? Check.statusIs200Name = some true) ∧
    (¬ LeadsToOk c.deadline r a l₁ → ∀ results l',
      run (fun u => outcome <$> c.fetch Link.wire u) u l = some (results, l') →
        results.get? Check.statusIs200Name = some false) ∧
    ∀ (p : Probe) (stamp : Stamp), p.client = c → p.config.targetUrl = u →
      p.checks = Check.defaults →
      (p.report Link.wire (pure (pure stamp)) l).map (fun x => (x.1.checks, x.2)) =
        run (fun u => outcome <$> c.fetch Link.wire u) u l := by
  have hiff : LeadsToOk c.deadline r a l₁ ↔ ∃ results l',
      run (fun u => outcome <$> c.fetch Link.wire u) u l = some (results, l') ∧
        results.get? Check.statusIs200Name = some true :=
    (fetch_ok_iff hreq hx hs).symm.trans run_ok_iff.symm
  have hfalse : ¬ LeadsToOk c.deadline r a l₁ → ∀ results l',
      run (fun u => outcome <$> c.fetch Link.wire u) u l = some (results, l') →
        results.get? Check.statusIs200Name = some false := by
    intro hno results l' hrun
    exact (run_eq_some hrun).1.resolve_left fun htrue => hno (hiff.2 ⟨results, l', hrun, htrue⟩)
  refine ⟨fun hr y l₂ hb => ?_, hiff, hfalse, ?_⟩
  · have hno : ¬ LeadsToOk c.deadline r a l₁ := by
      rintro ⟨next, _, _, _, _, _, hnext, -⟩
      cases hr.symm.trans hnext
    have hfetch : ∃ x, c.fetch Link.wire u l = some (x, l₂) := by
      rw [Client.fetch_of_firstRequest Link.wire rfl hreq, follow_of_direct Link.wire rfl hx hr]
      change ∃ x, (Link.receive c.deadline a l₁).map _ = some (x, l₂)
      rw [hb]
      exact ⟨_, rfl⟩
    obtain ⟨x, hfetch⟩ := hfetch
    have hrun : ∃ results,
        run (fun u => outcome <$> c.fetch Link.wire u) u l = some (results, l₂) := by
      rw [run_link, hfetch]
      exact ⟨_, rfl⟩
    obtain ⟨results, hrun⟩ := hrun
    exact ⟨results, hrun, hfalse hno results l₂ hrun⟩
  · rintro p stamp rfl rfl hp
    exact checks_report p stamp l hp

/-- The request for the default target by a client without settings. -/
def firstRequest : Request := Request.ofUrl none Config.defaultTarget

theorem firstRequest?_plain :
    Client.plain.firstRequest? Config.defaultTarget = some firstRequest := by
  rw [Client.firstRequest?, Url.parse_toText_of_readable Config.isRead_defaultTarget
    Config.isReadable_defaultTarget]
  exact if_pos ⟨by decide, by decide, by decide +kernel⟩

/-- What follows it when the response leads to another path. -/
def redirected : Request :=
  ⟨{ Config.defaultTarget with path := .segments ["ok"] },
    [⟨"accept", Text.Utf8.encode "*/*"⟩,
      ⟨"referer", Text.Utf8.encode "http://localhost:22313/"⟩]⟩

/-- Where the default target is. -/
def localAddress : Address := ⟨false, .domain "localhost", 22313⟩

theorem address?_defaultTarget : address? Config.defaultTarget = some localAddress := by
  decide

/-- The default target and nothing else answers, with the given replies. -/
def answering (replies : List Reply) : Link :=
  Link.ofNetwork ⟨fun a => if a = localAddress then none else some .refused, replies⟩

theorem fault?_answering (replies : List Reply) :
    (answering replies).network.fault? localAddress = none := by
  change (if localAddress = localAddress then none else some ConnectFault.refused) = none
  exact if_pos rfl

def notFound : Reply :=
  ⟨Text.Utf8.encode "HTTP/1.1 404 Not Found\r\nContent-Length: 0\r\n\r\n", true⟩

def found : Reply :=
  ⟨Text.Utf8.encode "HTTP/1.1 302 Found\r\nLocation: /ok\r\nContent-Length: 0\r\n\r\n", true⟩

def ok : Reply :=
  ⟨Text.Utf8.encode "HTTP/1.1 200 OK\r\nContent-Length: 2\r\n\r\nok", true⟩

/-- What is not there fails the check. -/
theorem verdict_of_first_response_not_found :
    ∃ a l₁ results l', Client.plain.firstRequest? Config.defaultTarget = some firstRequest ∧
      Link.exchange Client.plain.deadline firstRequest (answering [notFound]) =
        some (.ok a, l₁) ∧ a.head.status = 404 ∧
      run (fun u => outcome <$> Client.plain.fetch Link.wire u) Config.defaultTarget
        (answering [notFound]) = some (results, l') ∧
      results.get? Check.statusIs200Name = some false := by
  have hread : readFinalHead notFound.bytes =
      .done (⟨true, 404, [⟨"content-length", Text.Utf8.encode "0"⟩]⟩, .length 0) [] := by
    rw [readFinalHead]
    rfl
  have hx : Link.exchange none firstRequest (answering [notFound]) = _ :=
    Link.exchange_of_reply (fault?_answering _) address?_defaultTarget rfl hread
  obtain ⟨results, hrun, hfalse⟩ :=
    (verdict_of_first_response firstRequest?_plain hx (by decide)).1 rfl _ _ rfl
  exact ⟨_, _, results, _, firstRequest?_plain, hx, rfl, hrun, hfalse⟩

/-- A target that answers with status 302 passes the check, since the client goes on to where
that leads. -/
theorem redirect_passes :
    ∃ r a l₁ l₂ body results l', Client.plain.firstRequest? Config.defaultTarget = some r ∧
      Link.exchange Client.plain.deadline r (answering [found, ok]) = some (.ok a, l₁) ∧
      Link.receive Client.plain.deadline a l₁ = some (.ok body, l₂) ∧ a.head.status = 302 ∧
      run (fun u => outcome <$> Client.plain.fetch Link.wire u) Config.defaultTarget
        (answering [found, ok]) = some (results, l') ∧
      results.get? Check.statusIs200Name = some true := by
  have hfound : readFinalHead found.bytes = .done (⟨true, 302,
      [⟨"location", Text.Utf8.encode "/ok"⟩, ⟨"content-length", Text.Utf8.encode "0"⟩]⟩,
        .length 0) [] := by
    rw [readFinalHead]
    rfl
  have hok : readFinalHead ok.bytes = .done (⟨true, 200,
      [⟨"content-length", Text.Utf8.encode "2"⟩]⟩, .length 2) (Text.Utf8.encode "ok") := by
    rw [readFinalHead]
    rfl
  have hx : Link.exchange none firstRequest (answering [found, ok]) = _ :=
    Link.exchange_of_reply (fault?_answering _) address?_defaultTarget rfl hfound
  have hr : redirect? firstRequest ⟨true, 302,
      [⟨"location", Text.Utf8.encode "/ok"⟩, ⟨"content-length", Text.Utf8.encode "0"⟩]⟩ =
        some redirected := by
    decide +kernel
  have hx' : Link.exchange none redirected ⟨(answering [ok]).network, [], [firstRequest]⟩ = _ :=
    Link.exchange_of_reply (l := ⟨(answering [ok]).network, [], [firstRequest]⟩)
      (fault?_answering [ok]) address?_defaultTarget rfl hok
  have hfetch := (fetch_ok_iff firstRequest?_plain hx (by decide)).2
    ⟨redirected, _, _, _, Text.Utf8.encode "ok", _, hr, rfl, .direct hx' rfl, rfl, rfl⟩
  obtain ⟨results, l', hrun, htrue⟩ := run_ok_iff.2 hfetch
  exact ⟨firstRequest, _, _, _, [], results, l', firstRequest?_plain, hx, rfl, rfl, hrun, htrue⟩

end Probe

end Liveness
