import Liveness.Proofs.Http.Courses
import Liveness.Proofs.Probe.Fetch
import Liveness.Proofs.Probe.Redirects

/-! What a probe sends: a few requests, each of which the response to the one before asks for,
and none again. -/

namespace Liveness

namespace Http

open Text

/-- The exchanges of a fetch and what they make of it. The body of a response that sends the
client on is never read. -/
structure Course (s : Supply) (c : Client) (u : Url) (l : Link) (es : List Exchange) : Prop where
  atMostTen : es.length ≤ 10
  gets : ∀ e ∈ es, Utf8.encode "GET " <+: e.request.encode
  /-- There is none if no request can be made for the URL. -/
  first : es.head? = (c.firstRequest? u).map (⟨·, l⟩)
  next : ∀ i e e', es[i]? = some e → es[i + 1]? = some e' →
    ∃ a l₁, e.result s c.deadline = some (.ok a, l₁) ∧
      SendsTo e.request.url a.head e'.request.url ∧ s.wire.discard a l₁ = some ((), e'.link)
  /-- No connection or no complete head. -/
  unanswered : ∀ i e fault l₁, es[i]? = some e →
    e.result s c.deadline = some (.error fault, l₁) →
      es.length = i + 1 ∧ c.fetch s.wire u l = some (.error (.send e.request.url fault), l₁)
  /-- No complete body. -/
  cut : ∀ i e a l₁ fault l₂, es[i]? = some e → e.result s c.deadline = some (.ok a, l₁) →
    (∀ v, ¬ SendsTo e.request.url a.head v) →
    s.wire.receive c.deadline a l₁ = some (.error fault, l₂) →
      es.length = i + 1 ∧ c.fetch s.wire u l = some (.error (.receive fault), l₂)
  tooMany : ∀ e a l₁ v, es[9]? = some e → e.result s c.deadline = some (.ok a, l₁) →
    SendsTo e.request.url a.head v →
      ∃ l₂, c.fetch s.wire u l = some (.error (.tooManyRedirects e.request.url), l₂)
  whole : ∀ resp l', c.fetch s.wire u l = some (.ok resp, l') →
    ∃ e a l₁, es.getLast? = some e ∧ e.result s c.deadline = some (.ok a, l₁) ∧
      (∀ v, ¬ SendsTo e.request.url a.head v) ∧
      s.wire.receive c.deadline a l₁ = some (.ok resp.body, l') ∧
      resp.status = a.head.status.toUInt16
  endless : c.fetch s.wire u l = none → c.timeoutSecs = none ∧
    ∃ e, es.getLast? = some e ∧ (e.result s c.deadline = none ∨
      ∃ a l₁, e.result s c.deadline = some (.ok a, l₁) ∧
        (∀ v, ¬ SendsTo e.request.url a.head v) ∧ s.wire.receive c.deadline a l₁ = none)
  received : ∀ x l', c.fetch s.wire u l = some (x, l') →
    l'.received = l.received ++ es.flatMap (Exchange.sent s c.deadline)

section

variable {s : Supply} {c : Client} {u : Url} {l : Link}

theorem course_nil (h : c.firstRequest? u = none) : Course s c u l [] := by
  obtain ⟨f, hf⟩ := Client.fetch_of_firstRequest_none s.wire h l
  exact {
    atMostTen := Nat.zero_le _
    gets := fun e he => nomatch he
    first := by rw [h]; rfl
    next := fun i e e' he => nomatch he
    unanswered := fun i e fault l₁ he => nomatch he
    cut := fun i e a l₁ fault l₂ he => nomatch he
    tooMany := fun e a l₁ v he => nomatch he
    whole := fun resp l' h => nomatch hf.symm.trans h
    endless := fun h => nomatch hf.symm.trans h
    received := fun x l' h => by
      cases hf.symm.trans h
      exact (List.append_nil _).symm }

theorem course_of_walk {r : Request} {es : List Exchange} (hr : c.firstRequest? u = some r)
    (h : Walk s c.deadline maxRedirects (⟨r, l⟩ :: es) (c.fetch s.wire u l)) :
    Course s c u l (⟨r, l⟩ :: es) := by
  obtain ⟨last, m, hlast, hends⟩ := h.exists_last
  rw [← List.getLast?_eq_getElem?] at hlast
  exact {
    atMostTen := h.length_le
    gets := fun e _ => by
      simp only [Request.encode, Request.line, List.append_assoc]
      exact List.prefix_append _ _
    first := by rw [hr]; rfl
    next := fun i e e' he he' => by
      rcases h.get he with ⟨hlen, -⟩ | ⟨-, e'', he'', a, l₁, hx, hsend, hd⟩
      · rw [List.getElem?_eq_none hlen.le] at he'
        cases he'
      · cases he'.symm.trans he''
        exact ⟨a, l₁, hx, sendsTo_of_redirect? hsend, hd⟩
    unanswered := fun i e fault l₁ he hx => by
      rcases h.get he with ⟨hlen, hends⟩ | ⟨-, e', -, a, l₂, hx', -⟩
      · exact ⟨hlen, hends.of_error hx⟩
      · cases hx.symm.trans hx'
    cut := fun i e a l₁ fault l₂ he hx hno hb => by
      have hnone := redirect?_eq_none_iff.2 hno
      rcases h.get he with ⟨hlen, hends⟩ | ⟨-, e', -, a', l', hx', hsend, -⟩
      · exact ⟨hlen, hends.of_receive_error hx hnone hb⟩
      · cases hx.symm.trans hx'
        cases hnone.symm.trans hsend
    tooMany := fun e a l₁ v he hx hsend => by
      obtain ⟨next, hnext⟩ : ∃ next, redirect? e.request a.head = some next :=
        Option.ne_none_iff_exists'.1 fun hnone => redirect?_eq_none_iff.1 hnone v hsend
      rcases h.get he with ⟨-, hends⟩ | ⟨hi, -⟩
      · exact hends.of_redirect hx hnext
      · exact absurd hi (Nat.lt_irrefl 9)
    whole := fun resp l' hres => by
      obtain ⟨a, l₁, hx, hnone, hb, hstatus⟩ := hends.eq_ok hres
      exact ⟨last, a, l₁, hlast, hx, redirect?_eq_none_iff.1 hnone, hb, hstatus⟩
    endless := fun hres => by
      have hdeadline : c.deadline = none := by
        rcases hends.eq_none hres with hx | ⟨a, l₁, -, -, hb⟩
        · exact (Link.exchange_eq_none hx).1
        · exact (Link.receive_eq_none hb).1
      refine ⟨Option.map_eq_none_iff.1 hdeadline, last, hlast, ?_⟩
      exact (hends.eq_none hres).imp_right fun ⟨a, l₁, hx, hnone, hb⟩ =>
        ⟨a, l₁, hx, redirect?_eq_none_iff.1 hnone, hb⟩
    received := fun x l' hres => h.received rfl hres }

/-- Every fetch has its course, also one that never ends. -/
theorem exists_course (s : Supply) (c : Client) (u : Url) (l : Link) :
    ∃ es, Course s c u l es := by
  cases hr : c.firstRequest? u with
  | none => exact ⟨[], course_nil hr⟩
  | some r =>
    obtain ⟨es, hes⟩ : ∃ es, Walk s c.deadline maxRedirects (⟨r, l⟩ :: es)
        (follow s.wire 0 c.deadline maxRedirects r l) := walk_of_follow maxRedirects r l
    rw [← Client.fetch_of_firstRequest s.wire rfl hr l] at hes
    exact ⟨_, course_of_walk hr hes⟩

end

/-- Whichever URL of the set is asked for, and however many requests have come before, the
reply is a redirect to a URL of the set. -/
def RedirectsWithin (S : Set Url) (reply : Nat → Reply) : Prop :=
  ∀ i, ∀ u ∈ S, ∃ head framing rest v,
    readFinalHead (reply i).bytes = .done (head, framing) rest ∧ SendsTo u head v ∧ v ∈ S

section

variable {S : Set Url} {reply : Nat → Reply} {deadline : Option Nat} {r : Request} {l : Link}

/-- A request to such a server finds no connection, or asks for another. -/
theorem RedirectsWithin.exchange (h : RedirectsWithin S reply) (hr : r.url ∈ S) :
    (∃ fault l₁, (Supply.endless reply).wire.exchange deadline r l = some (.error fault, l₁)) ∨
      ∃ a l₁ next, (Supply.endless reply).wire.exchange deadline r l = some (.ok a, l₁) ∧
        redirect? r a.head = some next ∧ next.url ∈ S := by
  rcases Link.exchange_cases deadline r ((Supply.endless reply).stock l) with ⟨-, hx⟩ |
    ⟨_, _, -, -, hx⟩ | ⟨a, -, -, hx⟩
  · exact .inl ⟨_, _, hx⟩
  · exact .inl ⟨_, _, hx⟩
  · obtain ⟨head, framing, rest, v, hread, hsend, hv⟩ := h l.received.length r.url hr
    -- the stock holds nothing but the reply to this request
    have hanswer : ((((Supply.endless reply).stock l).without a).answer r).1 =
        reply l.received.length := rfl
    rw [Link.readReply, hanswer, hread] at hx
    refine .inr ⟨_, _, ⟨v, headersFor r.url v r.headers⟩, hx, ?_, hv⟩
    rw [redirect?, location?_eq_some_iff.2 hsend]
    rfl

theorem follow_of_redirectsWithin (h : RedirectsWithin S reply) (n : Nat) (hr : r.url ∈ S) :
    ∃ f l', follow (Supply.endless reply).wire 0 deadline n r l = some (.error f, l') := by
  induction n generalizing r l with
  | zero =>
    rcases h.exchange hr with ⟨fault, l₁, hx⟩ | ⟨a, l₁, next, hx, hsend, -⟩
    · exact ⟨_, _, follow_of_error _ hx⟩
    · obtain ⟨l₂, hd, -⟩ := Link.discard_eq_some a l₁
      exact ⟨_, _, follow_zero_of_redirect _ hx hsend hd⟩
  | succ n ih =>
    rcases h.exchange hr with ⟨fault, l₁, hx⟩ | ⟨a, l₁, next, hx, hsend, hnext⟩
    · exact ⟨_, _, follow_of_error _ hx⟩
    · obtain ⟨l₂, hd, -⟩ := Link.discard_eq_some a l₁
      rw [follow_succ_of_redirect _ hx hsend hd]
      exact ih hnext

end

end Http

namespace Probe

open Http

/-- The requests of a run, whatever the server does: a course of at most ten, of which none is
made again. A fault is reported without a status, also that there are too many redirects. A
server that always redirects keeps no run from ending. -/
theorem course_of_run (s : Supply) (p : Probe) (stamp : Stamp) (l : Link) :
    (∃ es, Course s p.client p.config.targetUrl l es) ∧
    (∀ f l', p.client.fetch s.wire p.config.targetUrl l = some (.error f, l') →
      ∃ report, p.report s.wire (pure (pure stamp)) l = some (report, l') ∧
        report.status = none ∧ report.error = some ("Connection error: " ++ f.message) ∧
        ∀ v, f = .tooManyRedirects v → f.message =
          "error following redirect for url (" ++ v.toText ++ "): too many redirects") ∧
    ∀ (S : Set Url) (reply : Nat → Reply), RedirectsWithin S reply →
      (∀ r, p.client.firstRequest? p.config.targetUrl = some r → r.url ∈ S) →
      ∃ report l', p.report (Supply.endless reply).wire (pure (pure stamp)) l =
        some (report, l') ∧ report.status = none := by
  refine ⟨exists_course s p.client p.config.targetUrl l, fun f l' hf => ?_,
    fun S reply hredirects hfirst => ?_⟩
  · refine ⟨_, by rw [report_link, hf]; rfl, rfl, rfl, ?_⟩
    rintro v rfl
    rfl
  · have hfetch : ∃ f l',
        p.client.fetch (Supply.endless reply).wire p.config.targetUrl l = some (.error f, l') := by
      cases hr : p.client.firstRequest? p.config.targetUrl with
      | none =>
        obtain ⟨f, hf⟩ := Client.fetch_of_firstRequest_none (Supply.endless reply).wire hr l
        exact ⟨f, l, hf⟩
      | some r =>
        rw [Client.fetch_of_firstRequest _ rfl hr]
        exact follow_of_redirectsWithin hredirects maxRedirects (hfirst r hr)
    obtain ⟨f, l', hf⟩ := hfetch
    exact ⟨_, l', by rw [report_link, hf]; rfl, rfl⟩

/-- A redirect to the path of the default target. -/
def home : Reply :=
  ⟨Text.Utf8.encode "HTTP/1.1 302 Found\r\nLocation: /\r\nContent-Length: 0\r\n\r\n", true⟩

/-- A target that redirects to itself for ever is given up. -/
theorem course_of_run_home :
    RedirectsWithin {Config.defaultTarget} (fun _ => home) ∧
      ∃ report l', (withClient Config.default Client.plain).report
        (Supply.endless fun _ => home).wire (pure (pure ⟨"", "", 0⟩)) (answering []) =
          some (report, l') ∧ report.status = none := by
  have hhome : readFinalHead home.bytes = .done (⟨true, 302,
      [⟨"location", Text.Utf8.encode "/"⟩, ⟨"content-length", Text.Utf8.encode "0"⟩]⟩,
        .length 0) [] := by
    rw [readFinalHead]
    rfl
  have hredirects : RedirectsWithin {Config.defaultTarget} (fun _ => home) := by
    rintro i u rfl
    exact ⟨_, _, _, Config.defaultTarget, hhome, location?_eq_some_iff.1 (by decide +kernel), rfl⟩
  refine ⟨hredirects, (course_of_run .listed (withClient Config.default Client.plain) ⟨"", "", 0⟩
    (answering [])).2.2 _ _ hredirects fun r hr => ?_⟩
  cases hr.symm.trans firstRequest?_plain
  rfl

end Probe

end Liveness
