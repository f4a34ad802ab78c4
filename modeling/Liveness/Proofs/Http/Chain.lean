import Liveness.Http.Client
import Liveness.Proofs.Http.Link

/-! Where redirects lead: a fetch brings the response to the last of some requests, each of
which is what the response to the one before it asks for. -/

namespace Liveness.Http

open Link

/-- From a request a response is reached that is no redirect, at once or after going where
at most so many redirects lead. -/
inductive Leads (deadline : Option Nat) : Nat → Request → Link → Arrival Unit → Link → Prop
  | direct {n : Nat} {r : Request} {l l' : Link} {a : Arrival Unit} :
      exchange deadline r l = some (.ok a, l') → redirect? r a.head = none →
      Leads deadline n r l a l'
  | redirected {n : Nat} {r next : Request} {l l₁ l₂ l' : Link} {a b : Arrival Unit} :
      exchange deadline r l = some (.ok a, l₁) → redirect? r a.head = some next →
      discard a l₁ = some ((), l₂) → Leads deadline n next l₂ b l' →
      Leads deadline (n + 1) r l b l'

section

variable {start : Nat} {deadline : Option Nat} {r next : Request} {l l₁ l₂ : Link}
  {a : Arrival Unit}

section

variable (w : Wire (StateT Link Option) Unit)

theorem follow_of_waiting {n : Nat} (hx : w.exchange deadline r l = none) :
    follow w start deadline n r l = none := by
  rw [follow.eq_def, bind_apply, hx]
  rfl

theorem follow_of_error {n : Nat} {e : SendFault}
    (hx : w.exchange deadline r l = some (.error e, l₁)) :
    follow w start deadline n r l = some (.error (.send r.url e), l₁) := by
  rw [follow.eq_def, bind_apply, hx]
  rfl

theorem follow_of_direct {n : Nat} (hnow : w.now = pure 0)
    (hx : w.exchange deadline r l = some (.ok a, l₁)) (hr : redirect? r a.head = none) :
    follow w start deadline n r l = (w.receive deadline a l₁).map fun y =>
      (match y.1 with
        | .ok body => .ok ⟨a.head.status.toUInt16, body, 0 - start⟩
        | .error e => .error (.receive e), y.2) := by
  rw [follow.eq_def, bind_apply, hx]
  simp only [Option.bind_some, hr]
  rw [bind_apply, hnow]
  rcases w.receive deadline a l₁ with _ | ⟨_ | body, l₂⟩ <;> rfl

theorem follow_zero_of_redirect (hx : w.exchange deadline r l = some (.ok a, l₁))
    (hr : redirect? r a.head = some next) (hd : w.discard a l₁ = some ((), l₂)) :
    follow w start deadline 0 r l = some (.error (.tooManyRedirects r.url), l₂) := by
  rw [follow.eq_def, bind_apply, hx]
  simp only [Option.bind_some, hr]
  rw [bind_apply, hd]
  rfl

theorem follow_succ_of_redirect {n : Nat} (hx : w.exchange deadline r l = some (.ok a, l₁))
    (hr : redirect? r a.head = some next) (hd : w.discard a l₁ = some ((), l₂)) :
    follow w start deadline (n + 1) r l = follow w start deadline n next l₂ := by
  rw [follow.eq_def, bind_apply, hx]
  simp only [Option.bind_some, hr]
  rw [bind_apply, hd]
  rfl

end

theorem follow_of_leads {n : Nat} {l' : Link} {body : Text.Bytes} (h : Leads deadline n r l a l₁)
    (hb : receive deadline a l₁ = some (.ok body, l')) :
    follow wire start deadline n r l =
      some (.ok ⟨a.head.status.toUInt16, body, 0 - start⟩, l') := by
  induction h with
  | direct hx hr =>
    rw [follow_of_direct wire rfl hx hr]
    change (receive deadline _ _).map _ = _
    rw [hb]
    rfl
  | redirected hx hr hd _ ih =>
    rw [follow_succ_of_redirect wire hx hr hd]
    exact ih hb

/-- A request brings a response by its own, or by the one to the request that it is
redirected to. -/
theorem follow_eq_ok_step {n : Nat} {resp : Response} {l' : Link}
    (h : follow wire start deadline n r l = some (.ok resp, l')) :
    ∃ a l₁, exchange deadline r l = some (.ok a, l₁) ∧
      ((redirect? r a.head = none ∧ ∃ body, receive deadline a l₁ = some (.ok body, l') ∧
          resp = ⟨a.head.status.toUInt16, body, 0 - start⟩) ∨
        ∃ next l₂ fewer, redirect? r a.head = some next ∧ discard a l₁ = some ((), l₂) ∧
          n = fewer + 1 ∧ follow wire start deadline fewer next l₂ = some (.ok resp, l')) := by
  rcases hx : exchange deadline r l with _ | ⟨e | a, l₁⟩
  · rw [follow_of_waiting wire hx] at h
    cases h
  · rw [follow_of_error wire hx] at h
    cases h
  · refine ⟨a, l₁, rfl, ?_⟩
    cases hr : redirect? r a.head with
    | none =>
      rw [follow_of_direct wire rfl hx hr, Option.map_eq_some_iff] at h
      obtain ⟨⟨y, l₂⟩, hb, h⟩ := h
      cases y with
      | error e => cases h
      | ok body =>
        cases h
        exact .inl ⟨rfl, body, hb, rfl⟩
    | some next =>
      obtain ⟨l₂, hd, -⟩ := discard_eq_some a l₁
      cases n with
      | zero =>
        rw [follow_zero_of_redirect wire hx hr hd] at h
        cases h
      | succ fewer =>
        rw [follow_succ_of_redirect wire hx hr hd] at h
        exact .inr ⟨next, l₂, fewer, rfl, hd, rfl, h⟩

theorem leads_of_follow {n : Nat} {resp : Response} {l' : Link}
    (h : follow wire start deadline n r l = some (.ok resp, l')) :
    ∃ a l₁ body, Leads deadline n r l a l₁ ∧ receive deadline a l₁ = some (.ok body, l') ∧
      resp = ⟨a.head.status.toUInt16, body, 0 - start⟩ := by
  induction n generalizing r l with
  | zero =>
    obtain ⟨a, l₁, hx, ⟨hr, body, hb, hresp⟩ | ⟨_, _, _, -, -, hn, -⟩⟩ := follow_eq_ok_step h
    · exact ⟨a, l₁, body, .direct hx hr, hb, hresp⟩
    · cases hn
  | succ n ih =>
    obtain ⟨a, l₁, hx, ⟨hr, body, hb, hresp⟩ | ⟨next, l₂, _, hr, hd, hn, h⟩⟩ :=
      follow_eq_ok_step h
    · exact ⟨a, l₁, body, .direct hx hr, hb, hresp⟩
    · cases hn
      obtain ⟨b, l₃, body, hl, hb, hresp⟩ := ih h
      exact ⟨b, l₃, body, .redirected hx hr hd hl, hb, hresp⟩

/-- The response that is reached has been read from a reply of the network. -/
theorem offers_of_leads {n : Nat} (h : Leads deadline n r l a l₁) :
    ∃ reply, Offers l.network reply ∧
      readFinalHead reply.bytes = .done (a.head, a.framing) a.connection.unread ∧
      a.connection.closed = reply.closes := by
  induction h with
  | direct hx _ => exact (exchange_eq_ok hx).2
  | redirected hx _ hd _ ih =>
    obtain ⟨reply, ho, hread⟩ := ih
    refine ⟨reply, ?_, hread⟩
    obtain ⟨_, hd', hnet, -⟩ := discard_eq_some _ _
    cases hd.symm.trans hd'
    rw [hnet] at ho
    exact ho.imp_left fun hm => (exchange_eq_ok hx).1.subset hm

end

namespace Client

/-- The time at which a client gives up a fetch that it begins at the start of its clock. -/
def deadline (c : Client) : Option Nat := c.timeoutSecs.map fun s => 0 + 1000 * s.toNat

/-- The request that a fetch begins with, if the URL can be read back from its text and
requested. -/
def firstRequest? (c : Client) (u : Url) : Option Request :=
  match Url.parse u.toText with
  | .error _ => none
  | .ok u =>
    let r := Request.ofUrl c.userAgent u
    if u.host? ≠ none ∧ (u.scheme = "http" ∨ u.scheme = "https") ∧ isUri r.url then some r
    else none

theorem fetch_of_firstRequest_none (w : Wire (StateT Link Option) Unit) {c : Client} {u : Url}
    (h : c.firstRequest? u = none) (l : Link) : ∃ f, c.fetch w u l = some (.error f, l) := by
  rw [firstRequest?] at h
  rw [fetch]
  split at h
  · next e he =>
    rw [he]
    exact ⟨_, rfl⟩
  · next u' hu =>
    rw [hu]
    dsimp only at h ⊢
    split at h
    · cases h
    · next hreq =>
      rw [fetchUrl]
      split
      · exact ⟨_, rfl⟩
      · next hhost =>
        split
        · exact ⟨_, rfl⟩
        · next hscheme =>
          split
          · exact ⟨_, rfl⟩
          · next hr =>
            exact absurd ⟨hhost, Decidable.or_iff_not_not_and_not.2 hscheme, by simpa using hr⟩ hreq

theorem fetch_of_firstRequest (w : Wire (StateT Link Option) Unit) (hnow : w.now = pure 0)
    {c : Client} {u : Url} {r : Request} (h : c.firstRequest? u = some r) (l : Link) :
    c.fetch w u l = follow w 0 c.deadline maxRedirects r l := by
  rw [firstRequest?] at h
  rw [fetch]
  split at h
  · cases h
  · next u' hu =>
    rw [hu]
    dsimp only at h ⊢
    split at h
    · next hreq =>
      cases h
      obtain ⟨hhost, hscheme, hr⟩ := hreq
      have hs : ¬ (u'.scheme ≠ "http" ∧ u'.scheme ≠ "https") := by
        rcases hscheme with hs | hs <;> simp [hs]
      rw [fetchUrl, if_neg hhost, if_neg hs, if_neg (by simp [hr]), hnow]
      rfl
    · cases h

end Client

end Liveness.Http
