import Liveness.Proofs.Config.RoundTrip
import Liveness.Proofs.Http.Requests
import Liveness.Proofs.Probe.Courses

/-! The first request of a probe: its lines are those that the configuration asks for, and
nothing in the configuration can make them more. -/

namespace Liveness

namespace Http

open Text

/-- The bytes of a request for a URL with that host and port, by a client that has the name or
none. -/
structure IsRequestFor (u : Url) (h : Url.Host) (p : UInt16) (agent : Option String)
    (bytes : Bytes) : Prop where
  host : u.host? = some h
  port : u.effectivePort? = some p
  lines : bytes = unlines (linesOf u h p agent)
  /-- Whoever cuts the bytes at the line feeds gets these lines and no others. -/
  cut : bytes.splitOn 0x0A = (linesOf u h p agent).map (· ++ [0x0D]) ++ [[0x0D], []]
  clean : ∀ l ∈ linesOf u h p agent, IsLine l
  /-- What is asked for is the text of the URL between the authority and the fragment. -/
  text : ∃ a, u.authority = some a ∧
    u.toChars = "http://".toList ++ a.print ++ resource u ++ u.printFragment
  seen : ∀ c ∈ resource u, Url.Percent.isVisible c = true ∧ c ≠ ' ' ∧ c ≠ '#'
  anonymous : (∀ a ∈ u.authority, a.printUserinfo = []) → credentials? u = none
  /-- Otherwise name and password count, if they are texts behind their escapes. -/
  authorized : credentials? u ≠ none ↔ ∃ a ∈ u.authority, ∃ name,
    Utf8.decode? (Url.Percent.decode a.username.toList) = some name ∧
      (name ≠ "" ∨ ∃ p ∈ a.password, ∃ text,
        Utf8.decode? (Url.Percent.decode p.toList) = some text)

section

variable {u : Url}

theorem credentials?_eq_none (h : ∀ a ∈ u.authority, a.printUserinfo = []) :
    credentials? u = none := by
  rw [credentials?]
  cases ha : u.authority with
  | none => rfl
  | some a =>
    have hprint := h a ha
    rw [Url.Authority.printUserinfo] at hprint
    cases hp : a.password with
    | some p => simp [hp] at hprint
    | none =>
      have hname : a.username = "" := by
        by_contra hne
        simp [hp, hne] at hprint
      have hdecode : Utf8.decode? (Url.Percent.decode a.username.toList) = some "" := by
        rw [hname]
        rfl
      simp [hdecode, hp]

theorem credentials?_ne_none_iff : credentials? u ≠ none ↔ ∃ a ∈ u.authority, ∃ name,
    Utf8.decode? (Url.Percent.decode a.username.toList) = some name ∧
      (name ≠ "" ∨ ∃ p ∈ a.password, ∃ text,
        Utf8.decode? (Url.Percent.decode p.toList) = some text) := by
  rw [credentials?]
  cases u.authority with
  | none => simp
  | some a =>
    cases hname : Utf8.decode? (Url.Percent.decode a.username.toList) with
    | none => simp [hname]
    | some name =>
      cases hp : a.password with
      | none => simp [hname, hp]
      | some p =>
        cases ht : Utf8.decode? (Url.Percent.decode p.toList) with
        | none => simp [hname, hp, ht]
        | some text => simp [hname, hp, ht]

theorem host?_ofUrl (agent : Option Bytes) (u : Url) :
    (Request.ofUrl agent u).url.host? = u.host? := by
  rw [Request.ofUrl]
  split
  · rfl
  · rw [withoutUserinfo, Url.host?, Url.host?]
    cases u.authority <;> rfl

theorem isHostChar_of_isUri (hr : isUri u = true) {h : Url.Host} (hh : u.host? = some h) :
    ∀ c ∈ h.print, Http.isHostChar c = true := by
  rw [isUri, hh, Bool.and_eq_true, Bool.and_eq_true] at hr
  exact List.all_eq_true.1 hr.2.2

/-- A target is requested as it is. -/
theorem eq_ofUrl_of_firstRequest? (hu : u.IsRead) {client : Client} {r : Request}
    (hr : client.firstRequest? u = some r) :
    r = Request.ofUrl client.userAgent u ∧ isUri r.url = true := by
  have hreadable : u.IsReadable := by
    by_contra hno
    rw [Client.firstRequest?, Url.parse_toText_of_not_readable hu hno] at hr
    cases hr
  rw [Client.firstRequest?, Url.parse_toText_of_readable hu hreadable] at hr
  dsimp only at hr
  split at hr
  · next hreq =>
    cases hr
    exact ⟨rfl, hreq.2.2⟩
  · cases hr

theorem host?_ne_none (hu : u.IsRead) : u.host? ≠ none := by
  obtain ⟨a, hauthority, hread⟩ := hu.authority
  obtain ⟨h, hhost, -⟩ := hread.host
  rw [Url.host?, hauthority, Option.bind_some, hhost]
  exact Option.some_ne_none h

theorem isRequestFor_of_firstRequest? (hu : u.IsRead) (hs : u.scheme = "http")
    {client : Client} {agent : Option String} (ha : client.userAgent = agent.map Utf8.encode)
    (hagent : ∀ a ∈ agent, IsLine (Utf8.encode a)) {r : Request}
    (hr : client.firstRequest? u = some r) :
    ∃ h p, IsRequestFor u h p agent r.encode := by
  obtain ⟨rfl, huri⟩ := eq_ofUrl_of_firstRequest? hu hr
  obtain ⟨a, hauthority, -⟩ := hu.authority
  obtain ⟨h, hh⟩ := Option.ne_none_iff_exists'.1 (host?_ne_none hu)
  obtain ⟨p, hp⟩ : ∃ p, u.effectivePort? = some p := by
    rw [Url.effectivePort?, hs]
    cases u.authority.bind (·.port) with
    | none => exact ⟨80, rfl⟩
    | some p => exact ⟨p, rfl⟩
  have hlines : ∀ l ∈ linesOf u h p agent, IsLine l := fun l hl =>
    isLine_of_mem_linesOf hu (isHostChar_of_isUri huri
      ((host?_ofUrl _ u).trans hh)) hagent hl
  have hencode : (Request.ofUrl client.userAgent u).encode = unlines (linesOf u h p agent) := by
    rw [ha]
    exact encode_ofUrl hu hs hh hp
  refine ⟨h, p, hh, hp, hencode, ?_, hlines, ⟨a, hauthority, ?_⟩,
    fun c hc => isVisible_of_mem_resource hu hc, credentials?_eq_none, credentials?_ne_none_iff⟩
  · rw [hencode, splitOn_unlines hlines]
  · rw [Url.toChars_eq hauthority, hs, resource]
    simp

end

/-- What a run has sent begins with its first request, unless there is no way to where that
goes. -/
theorem Course.received_first {s : Supply} {c : Client} {u : Url} {l l' : Link}
    {es : List Exchange} (h : Course s c u l es) {r : Request} (hr : c.firstRequest? u = some r)
    (hhost : r.url.host? ≠ none) {x : Except Fault Response}
    (hx : c.fetch s.wire u l = some (x, l')) :
    (∃ a cause, address? r.url = some a ∧ l.network.fault? a = some cause ∧
        l'.received = l.received) ∨
      ∃ rest, l'.received = l.received ++ r :: rest := by
  have hfirst := h.first
  rw [hr, Option.map_some, List.head?_eq_some_iff] at hfirst
  obtain ⟨es', rfl⟩ := hfirst
  rw [h.received x l' hx, List.flatMap_cons]
  rcases Exchange.sent_cases s c.deadline ⟨r, l⟩ with hsent |
    ⟨hsent, ⟨hnone, -⟩ | ⟨a, cause, l₁, ha, hf, hfault⟩⟩
  · rw [hsent]
    exact .inr ⟨_, rfl⟩
  · exact absurd (Option.map_eq_none_iff.1 hnone) hhost
  · have hlen := (h.unanswered 0 _ _ _ rfl hfault).1
    rw [List.length_cons, Nat.add_right_cancel_iff, List.length_eq_zero_iff] at hlen
    rw [hsent, hlen]
    exact .inl ⟨a, cause, ha, hf, List.append_nil _⟩

end Http

namespace Probe

open Http Text

/-- The first request of all runs of a probe is for its target, by a client that has the name or
none. It is sent unless a connection to where it goes cannot be made. -/
def Requests (p : Probe) (agent : Option String) : Prop :=
  ∀ r, p.client.firstRequest? p.config.targetUrl = some r →
    (∃ h port, IsRequestFor p.config.targetUrl h port agent r.encode) ∧
    ∀ (s : Supply) (stamp : Stamp) (l : Link) (report : Report) (l' : Link),
      p.report s.wire (pure (pure stamp)) l = some (report, l') →
        (∃ a cause, address? r.url = some a ∧ l.network.fault? a = some cause ∧
          l'.received = l.received) ∨
        ∃ rest, l'.received = l.received ++ r :: rest

theorem requests_of_client {c : Config} {client : Client} {agent : Option String}
    (hu : c.targetUrl.IsRead) (hs : c.targetUrl.scheme = "http")
    (ha : client.userAgent = agent.map Utf8.encode)
    (hagent : ∀ a ∈ agent, IsLine (Utf8.encode a)) : Requests (withClient c client) agent := by
  intro r hr
  have hhost : r.url.host? ≠ none := by
    rw [(eq_ofUrl_of_firstRequest? hu hr).1, host?_ofUrl]
    exact host?_ne_none hu
  refine ⟨isRequestFor_of_firstRequest? hu hs ha hagent hr, fun s stamp l report l' h => ?_⟩
  obtain ⟨es, hes⟩ := exists_course s client c.targetUrl l
  rw [report_link, Option.map_eq_some_iff] at h
  obtain ⟨⟨x, l₁⟩, hfetch, h⟩ := h
  cases h
  exact hes.received_first hr hhost hfetch

theorem ofConfig_eq_error_iff {c : Config} :
    (∃ e, ofConfig c = .error e) ↔
      ∃ agent ∈ c.userAgent, ∃ ch ∈ agent.toList, IsControl ch := by
  rw [ofConfig]
  cases c.userAgent with
  | none => simp [Client.ofSettings?]
  | some agent =>
    have hsettings : Client.ofSettings? c.timeoutSecs (some agent) =
        (headerValue? agent).map fun v => ⟨c.timeoutSecs, some v⟩ := rfl
    rw [hsettings]
    cases hv : headerValue? agent with
    | none =>
      have hcontrol := headerValue?_eq_none_iff.1 hv
      exact ⟨fun _ => ⟨agent, rfl, hcontrol⟩, fun _ => ⟨_, rfl⟩⟩
    | some v =>
      have hcontrol : ¬ ∃ ch ∈ agent.toList, IsControl ch := by
        rw [← headerValue?_eq_none_iff, hv]
        exact Option.some_ne_none v
      constructor
      · rintro ⟨e, ⟨⟩⟩
      · rintro ⟨_, ⟨⟩, h⟩
        exact absurd h hcontrol

end Probe

end Liveness
