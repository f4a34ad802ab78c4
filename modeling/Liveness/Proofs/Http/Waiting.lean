import Liveness.Http.Client
import Liveness.Proofs.Http.Link

/-! When a client waits without end: it has no deadline, and the server keeps a connection
open on which it has not sent all of its response. -/

namespace Liveness.Http

open Text

/-- The connection is kept open while the head or the body of the response lacks bytes. -/
def Reply.IsPending (reply : Reply) : Prop :=
  reply.closes = false ∧
    ((∃ e, readFinalHead reply.bytes = .more e) ∨
      ∃ head framing rest e, readFinalHead reply.bytes = .done (head, framing) rest ∧
        readBody framing false rest = .more e)

open Link

/-- A reply whose connection is closed, or of which nothing is lacking, is not waited for. -/
theorem receive_pending {deadline : Option Nat} {r : Request} {a : Arrival Unit}
    {l l₁ l₂ : Link}
    (hx : exchange deadline r l = some (.ok a, l₁)) (hr : receive deadline a l₂ = none) :
    deadline = none ∧ ∃ reply ∈ l.network.replies, reply.IsPending := by
  obtain ⟨-, reply, ho, hd, hc⟩ := exchange_eq_ok hx
  obtain ⟨hn, hopen, e, hm⟩ := receive_eq_none hr
  rw [hopen] at hc hm
  rcases ho with ho | rfl
  · exact ⟨hn, reply, ho, hc.symm, .inr ⟨_, _, _, e, hd, hm⟩⟩
  · cases hc

/-- A client that waits does so for this response, or after going where it redirects. -/
theorem follow_eq_none_step {start : Nat} {deadline : Option Nat} {redirects : Nat}
    {r : Request} {l : Link} (h : follow wire start deadline redirects r l = none) :
    (deadline = none ∧ ∃ reply ∈ l.network.replies, reply.IsPending) ∨
      ∃ fewer next l', redirects = fewer + 1 ∧ l'.network.replies <:+ l.network.replies ∧
        follow wire start deadline fewer next l' = none := by
  rw [follow.eq_def] at h
  rcases (bind_eq_none_iff ..).1 h with hx | ⟨x, l₁, hx, h⟩
  · obtain ⟨hd, reply, hr, hopen, hm⟩ := exchange_eq_none hx
    exact .inl ⟨hd, reply, hr, hopen, .inl hm⟩
  · cases x with
    | error e => cases h
    | ok a =>
      dsimp only at h
      cases hr : redirect? r a.head with
      | none =>
        rw [hr] at h
        rcases (bind_eq_none_iff ..).1 h with hb | ⟨y, l₂, -, h⟩
        · exact .inl (receive_pending hx hb)
        · cases y <;> cases h
      | some next =>
        rw [hr] at h
        obtain ⟨l₂, hdiscard, hnet, -⟩ := discard_eq_some a l₁
        rcases (bind_eq_none_iff ..).1 h with h | ⟨_, l₃, h₃, h⟩
        · exact absurd (hdiscard.symm.trans h) (Option.some_ne_none _)
        · cases hdiscard.symm.trans h₃
          cases redirects with
          | zero => cases h
          | succ fewer => exact .inr ⟨fewer, next, l₂, rfl, hnet ▸ (exchange_eq_ok hx).1, h⟩

/-- Wherever redirects lead, only a pending reply keeps a client without a deadline. -/
theorem follow_eq_none {start : Nat} {deadline : Option Nat} {redirects : Nat} {r : Request}
    {l : Link} (h : follow wire start deadline redirects r l = none) :
    deadline = none ∧ ∃ reply ∈ l.network.replies, reply.IsPending := by
  induction redirects generalizing r l with
  | zero =>
    rcases follow_eq_none_step h with h | ⟨_, _, _, hz, -⟩
    · exact h
    · cases hz
  | succ n ih =>
    rcases follow_eq_none_step h with h | ⟨_, next, l', hn, hs, h⟩
    · exact h
    · cases hn
      obtain ⟨hd, reply, hr, hp⟩ := ih h
      exact ⟨hd, reply, hs.subset hr, hp⟩

theorem fetchUrl_eq_none {c : Client} {u : Url} {l : Link} (h : c.fetchUrl wire u l = none) :
    c.timeoutSecs = none ∧ ∃ reply ∈ l.network.replies, reply.IsPending := by
  rw [Client.fetchUrl] at h
  split at h
  · cases h
  · split at h
    · cases h
    · split at h
      · cases h
      · obtain ⟨hd, hp⟩ := follow_eq_none h
        exact ⟨Option.map_eq_none_iff.1 hd, hp⟩

/-- A fetch ends if its client has a timeout or no reply of the network is pending. -/
theorem fetch_eq_none {c : Client} {u : Url} {l : Link} (h : c.fetch wire u l = none) :
    c.timeoutSecs = none ∧ ∃ reply ∈ l.network.replies, reply.IsPending := by
  rw [Client.fetch] at h
  cases hu : Url.parse u.toText with
  | error e =>
    rw [hu] at h
    cases h
  | ok u' =>
    rw [hu] at h
    exact fetchUrl_eq_none h

end Liveness.Http
