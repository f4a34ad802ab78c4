import Liveness.Http.Network

/-! What each operation of a link does to it, and when it waits without end. Whatever is kept, a
request is sent on a connection on which nothing has come yet, and replies are only ever taken
from the front of those that the network has. -/

namespace Liveness.Http.Link

open Text

variable {α β ε : Type}

/-- The first step of two that give no result is the one that waits, or has led to it. -/
theorem bind_eq_none_iff (x : StateT Link Option α) (k : α → StateT Link Option β) (l : Link) :
    (x >>= k) l = none ↔ x l = none ∨ ∃ a l', x l = some (a, l') ∧ k a l' = none := by
  change (x l).bind (fun s => k s.1 s.2) = none ↔ _
  cases x l with
  | none => simp
  | some s =>
    constructor
    · intro h
      exact .inr ⟨s.1, s.2, rfl, h⟩
    · rintro (h | ⟨a, l', ⟨⟩, h⟩)
      · cases h
      · exact h

theorem bind_apply (x : StateT Link Option α) (k : α → StateT Link Option β) (l : Link) :
    (x >>= k) l = (x l).bind fun s => k s.1 s.2 := rfl

theorem pure_apply (a : α) (l : Link) : (pure a : StateT Link Option α) l = some (a, l) := rfl

theorem map_apply (f : α → β) (x : StateT Link Option α) (l : Link) :
    (f <$> x) l = (x l).map fun s => (f s.1, s.2) := by
  change (x l).bind (fun s => some (f s.1, s.2)) = _
  cases x l <;> rfl

/-- A connection on which nothing has come yet. -/
def fresh (a : Address) : Connection Unit := ⟨(), a, [], false⟩

/-- The link without the connection that is kept for an address. -/
def without (l : Link) (a : Address) : Link :=
  { l with idle := l.idle.filter (·.address ≠ a) }

/-- The link with the connection of a response, if that is kept. -/
def keep (l : Link) (h : Head) (c : Connection Unit) : Link :=
  if h.keepsConnection then { l with idle := c :: l.idle } else l

/-- What comes of waiting on a connection where nothing more is sent: its end, the
deadline, or else nothing, without end. -/
def waiting (l : Link) (closed : Bool) (deadline : Option Nat) (ended late : ε) :
    Option (Except ε α × Link) :=
  if closed then some (.error ended, l)
  else if deadline.isSome then some (.error late, l)
  else none

/-- What an exchange makes of the reply to its request. -/
def readReply (deadline : Option Nat) (a : Address) (reply : Reply) (l : Link) :
    Option (Except SendFault (Arrival Unit) × Link) :=
  match readFinalHead reply.bytes with
  | .done (head, framing) rest => some (.ok ⟨⟨(), a, rest, reply.closes⟩, head, framing⟩, l)
  | .failed e => some (.error (.head e), l)
  | .more e => l.waiting reply.closes deadline (.head e) .timedOut

/-- What is made of the bytes behind the head of a response. -/
def readArrival (deadline : Option Nat) (a : Arrival Unit) (l : Link) :
    Option (Except ReceiveFault Bytes × Link) :=
  match readBody a.framing a.connection.closed a.connection.unread with
  | .done body rest => some (.ok body, l.keep a.head { a.connection with unread := rest })
  | .failed e => some (.error (.body e), l)
  | .more e => l.waiting a.connection.closed deadline (.body e) .timedOut

section

variable (deadline : Option Nat) (l : Link) (a : Address)

@[simp] theorem received_without : (l.without a).received = l.received := rfl

@[simp] theorem network_keep (h : Head) (c : Connection Unit) :
    (l.keep h c).network = l.network := by
  rw [keep]
  split <;> rfl

@[simp] theorem received_keep (h : Head) (c : Connection Unit) :
    (l.keep h c).received = l.received := by
  rw [keep]
  split <;> rfl

theorem take_apply : lines.take a l = some (l.idle.find? (·.address = a), l.without a) := by
  simp only [Lines.take, bind_apply, lines, Option.bind_some]
  cases l.idle.find? (·.address = a) <;> rfl

theorem keep_apply (h : Head) (c : Connection Unit) :
    lines.keep h c l = some ((), l.keep h c) := by
  rw [Lines.keep, keep]
  split <;> rfl

theorem dial_of_none (h : l.network.fault? a = none) :
    lines.dial deadline a l = some (.ok (), l) := by
  simp only [lines, h]

theorem dial_of_some {e : ConnectFault} (h : l.network.fault? a = some e) :
    lines.dial deadline a l = some (.error (.connect e), l) := by
  simp only [lines, h]

end

/-- A connection that may be used again is as good as a new one. -/
theorem eq_fresh_of_isReusable {c : Connection Unit} (h : c.isReusable = true) :
    c = fresh c.address := by
  obtain ⟨line, address, unread, closed⟩ := c
  rw [Connection.isReusable, Bool.and_eq_true, List.isEmpty_iff, Bool.not_eq_true'] at h
  obtain ⟨rfl, rfl⟩ := h
  rfl

/-- Whether it has been kept or is new, nothing has come on a connection before a request is sent
on it. -/
theorem connect_cases (deadline : Option Nat) (a : Address) (l : Link) :
    (lines.connect deadline a l = some (.ok (fresh a), l.without a) ∧
      (l.network.fault? a = none ∨ ∃ c ∈ l.idle, c.address = a)) ∨
    ∃ e, l.network.fault? a = some e ∧
      lines.connect deadline a l = some (.error (.connect e), l.without a) := by
  simp only [Lines.connect, bind_apply, take_apply, Option.bind_some]
  cases hc : (l.idle.find? (·.address = a)).filter (·.isReusable) with
  | some c =>
    obtain ⟨hfind, hreusable⟩ := Option.filter_eq_some_iff.1 hc
    have haddress : c.address = a := by simpa using List.find?_some hfind
    refine .inl ⟨?_, .inr ⟨c, List.mem_of_find?_eq_some hfind, haddress⟩⟩
    rw [← haddress, ← eq_fresh_of_isReusable hreusable]
    rfl
  | none =>
    dsimp only
    cases hf : l.network.fault? a with
    | none =>
      refine .inl ⟨?_, .inl rfl⟩
      rw [bind_apply, dial_of_none deadline (l.without a) a hf]
      rfl
    | some e =>
      refine .inr ⟨e, rfl, ?_⟩
      rw [bind_apply, dial_of_some deadline (l.without a) a hf]
      rfl

theorem send_fresh (deadline : Option Nat) (r : Request) (a : Address) (l : Link) :
    lines.send deadline r (fresh a) l =
      some (⟨(), a, (l.answer r).1.bytes, (l.answer r).1.closes⟩, (l.answer r).2) := rfl

/-- Bytes that are not enough are waited for on an open connection. -/
theorem collect_apply (deadline : Option Nat) (enough : Bytes → Bool) (c : Connection Unit)
    (l : Link) : lines.collect deadline enough c l =
      if enough c.unread = true ∨ c.closed = true ∨ deadline.isSome = true then some (c, l)
      else none := by
  simp only [lines, Bool.or_eq_true, or_assoc]

section

variable {deadline : Option Nat} {r : Request} {l l' : Link} {a : Address}

theorem exchange_of_none (ha : address? r.url = none) :
    exchange deadline r l = some (.error .noHost, l) := by
  rw [exchange, Lines.exchange, ha]
  rfl

theorem exchange_of_connect_error {e : ConnectFault} (ha : address? r.url = some a)
    (hc : lines.connect deadline a l = some (.error (.connect e), l')) :
    exchange deadline r l = some (.error (.connect e), l') := by
  rw [exchange, Lines.exchange, ha]
  dsimp only
  rw [bind_apply, hc]
  rfl

theorem exchange_of_connect (ha : address? r.url = some a)
    (hc : lines.connect deadline a l = some (.ok (fresh a), l')) :
    exchange deadline r l = readReply deadline a (l'.answer r).1 (l'.answer r).2 := by
  rw [exchange, Lines.exchange, ha]
  dsimp only
  rw [bind_apply, hc]
  dsimp only [Option.bind_some]
  rw [bind_apply, send_fresh]
  dsimp only [Option.bind_some]
  rw [bind_apply, collect_apply, readReply]
  cases hread : readFinalHead (l'.answer r).1.bytes with
  | done x rest => simp [hread, Reading.isMore, pure_apply]
  | failed e => simp [hread, Reading.isMore, pure_apply]
  | more e =>
    -- nothing more comes, so that the end of the connection or the deadline decides
    cases hclosed : (l'.answer r).1.closes <;> cases deadline <;>
      simp [hread, Reading.isMore, waiting, pure_apply]

/-- All that an exchange can do: find no host or no connection, with nothing sent, or read the
reply to its request. -/
theorem exchange_cases (deadline : Option Nat) (r : Request) (l : Link) :
    (address? r.url = none ∧ exchange deadline r l = some (.error .noHost, l)) ∨
    (∃ a e, address? r.url = some a ∧ l.network.fault? a = some e ∧
      exchange deadline r l = some (.error (.connect e), l.without a)) ∨
    ∃ a, address? r.url = some a ∧ (l.network.fault? a = none ∨ ∃ c ∈ l.idle, c.address = a) ∧
      exchange deadline r l =
        readReply deadline a ((l.without a).answer r).1 ((l.without a).answer r).2 := by
  cases ha : address? r.url with
  | none => exact .inl ⟨rfl, exchange_of_none ha⟩
  | some a =>
    rcases connect_cases deadline a l with ⟨hc, hreach⟩ | ⟨e, hf, hc⟩
    · exact .inr (.inr ⟨a, rfl, hreach, exchange_of_connect ha hc⟩)
    · exact .inr (.inl ⟨a, e, rfl, hf, exchange_of_connect_error ha hc⟩)

end

section

variable {deadline : Option Nat} {r : Request} {l : Link} {a : Address}

/-- Where an address is reached the reply to a request is read from its first byte on, whatever
connections are kept. -/
theorem exchange_of_reached (hf : l.network.fault? a = none) (ha : address? r.url = some a) :
    exchange deadline r l =
      readReply deadline a ((l.without a).answer r).1 ((l.without a).answer r).2 := by
  apply exchange_of_connect ha
  rcases connect_cases deadline a l with ⟨hconnect, -⟩ | ⟨e, he, -⟩
  · exact hconnect
  · cases hf.symm.trans he

theorem answer_of_nil (h : l.network.replies = []) :
    l.answer r = (⟨[], true⟩, { l with received := l.received ++ [r] }) := by
  rw [answer, h]

theorem answer_of_cons {reply : Reply} {replies : List Reply}
    (h : l.network.replies = reply :: replies) :
    l.answer r = (reply, ⟨{ l.network with replies }, l.idle, l.received ++ [r]⟩) := by
  rw [answer, h]

/-- The response that the next reply begins with comes from an address that is reached. -/
theorem exchange_of_reply (hf : l.network.fault? a = none) (ha : address? r.url = some a)
    {reply : Reply} {replies : List Reply} (hreplies : l.network.replies = reply :: replies)
    {head : Head} {framing : Framing} {rest : Bytes}
    (hread : readFinalHead reply.bytes = .done (head, framing) rest) :
    exchange deadline r l = some (.ok ⟨⟨(), a, rest, reply.closes⟩, head, framing⟩,
      ⟨{ l.network with replies }, (l.without a).idle, l.received ++ [r]⟩) := by
  rw [exchange_of_reached hf ha, answer_of_cons (l := l.without a) hreplies, readReply, hread]
  rfl

end

theorem receive_apply (deadline : Option Nat) (a : Arrival Unit) (l : Link) :
    receive deadline a l = readArrival deadline a l := by
  rw [receive, Lines.receive, bind_apply, collect_apply, readArrival]
  obtain ⟨⟨line, address, unread, closed⟩, head, framing⟩ := a
  dsimp only
  cases closed with
  | true =>
    cases hread : readBody framing true unread with
    | done body rest =>
      simp only [or_true, true_or, if_true, Option.bind_some, hread]
      rw [bind_apply, keep_apply]
      rfl
    | failed e => simp [hread, pure_apply]
    | more e => simp [hread, waiting, pure_apply]
  | false =>
    cases hread : readBody framing false unread with
    | done body rest =>
      simp only [Reading.isMore, Bool.not_false, true_or, if_true, Option.bind_some, hread]
      rw [bind_apply, keep_apply]
      rfl
    | failed e => simp [hread, Reading.isMore, pure_apply]
    | more e => cases deadline <;> simp [hread, Reading.isMore, waiting, pure_apply]

/-- The connection of a response that is given up is kept if the rest of it has come. -/
theorem discard_of_done {a : Arrival Unit} {body rest : Bytes} (l : Link)
    (h : readBody a.framing a.connection.closed a.connection.unread = .done body rest) :
    discard a l = some ((), l.keep a.head { a.connection with unread := rest }) := by
  rw [discard, Lines.discard, h]
  exact keep_apply ..

theorem discard_of_not_done {a : Arrival Unit} (l : Link)
    (h : ∀ body rest, readBody a.framing a.connection.closed a.connection.unread ≠
      .done body rest) : discard a l = some ((), l) := by
  rw [discard, Lines.discard]
  cases hd : readBody a.framing a.connection.closed a.connection.unread with
  | done body rest => exact absurd hd (h body rest)
  | failed e => rfl
  | more e => rfl

/-- A response is given up without waiting. -/
theorem discard_eq_some (a : Arrival Unit) (l : Link) :
    ∃ l', discard a l = some ((), l') ∧ l'.network = l.network ∧ l'.received = l.received := by
  by_cases h : ∃ body rest,
      readBody a.framing a.connection.closed a.connection.unread = .done body rest
  · obtain ⟨body, rest, hd⟩ := h
    exact ⟨_, discard_of_done l hd, network_keep .., received_keep ..⟩
  · have hd := discard_of_not_done l fun body rest hd => h ⟨body, rest, hd⟩
    exact ⟨l, hd, rfl, rfl⟩

theorem waiting_eq_none_iff (l : Link) (closed : Bool) (deadline : Option Nat) (ended late : ε) :
    (l.waiting closed deadline ended late : Option (Except ε α × Link)) = none ↔
      closed = false ∧ deadline = none := by
  cases closed <;> cases deadline <;> simp [waiting]

section

variable {deadline : Option Nat} {l l' : Link}

theorem waiting_eq_some {closed : Bool} {ended late : ε} {x : Except ε α}
    (h : l.waiting closed deadline ended late = some (x, l')) :
    l' = l ∧ (x = .error ended ∨ x = .error late) := by
  rw [waiting] at h
  split at h
  · cases h
    exact ⟨rfl, .inl rfl⟩
  · split at h
    · cases h
      exact ⟨rfl, .inr rfl⟩
    · cases h

theorem readReply_eq_none {a : Address} {reply : Reply} (h : readReply deadline a reply l = none) :
    deadline = none ∧ reply.closes = false ∧ ∃ e, readFinalHead reply.bytes = .more e := by
  rw [readReply] at h
  split at h
  · cases h
  · cases h
  · next e hm =>
    obtain ⟨hopen, hd⟩ := (waiting_eq_none_iff ..).1 h
    exact ⟨hd, hopen, e, hm⟩

/-- Reading a reply changes nothing of the link. An arrival is what has been read of it, and
otherwise there is a fault in what has come. -/
theorem readReply_eq_some {a : Address} {reply : Reply} {x : Except SendFault (Arrival Unit)}
    (h : readReply deadline a reply l = some (x, l')) : l' = l ∧
      ((∃ head framing rest, x = .ok ⟨⟨(), a, rest, reply.closes⟩, head, framing⟩ ∧
          readFinalHead reply.bytes = .done (head, framing) rest) ∨
        (∃ e, x = .error (.head e)) ∨ x = .error .timedOut) := by
  rw [readReply] at h
  split at h
  · next head framing rest hd =>
    cases h
    exact ⟨rfl, .inl ⟨head, framing, rest, rfl, hd⟩⟩
  · next e _ =>
    cases h
    exact ⟨rfl, .inr (.inl ⟨e, rfl⟩)⟩
  · next e _ =>
    obtain ⟨hl, rfl | rfl⟩ := waiting_eq_some h
    · exact ⟨hl, .inr (.inl ⟨e, rfl⟩)⟩
    · exact ⟨hl, .inr (.inr rfl)⟩

/-- What comes of the bytes of an arrival leaves the network as it is. -/
theorem receive_eq_some {a : Arrival Unit} {x : Except ReceiveFault Bytes}
    (h : receive deadline a l = some (x, l')) :
    l'.received = l.received ∧ ∀ body, x = .ok body →
      ∃ rest, readBody a.framing a.connection.closed a.connection.unread = .done body rest := by
  rw [receive_apply, readArrival] at h
  split at h
  · next body rest hd =>
    cases h
    refine ⟨received_keep .., ?_⟩
    rintro _ ⟨⟩
    exact ⟨rest, hd⟩
  · cases h
    exact ⟨rfl, fun body hx => nomatch hx⟩
  · obtain ⟨rfl, rfl | rfl⟩ := waiting_eq_some h
    · exact ⟨rfl, fun body hx => nomatch hx⟩
    · exact ⟨rfl, fun body hx => nomatch hx⟩

/-- A body that does not come is waited for while its connection is open. -/
theorem receive_eq_none {a : Arrival Unit} (h : receive deadline a l = none) :
    deadline = none ∧ a.connection.closed = false ∧
      ∃ e, readBody a.framing a.connection.closed a.connection.unread = .more e := by
  rw [receive_apply, readArrival] at h
  split at h
  · cases h
  · cases h
  · next e hm =>
    obtain ⟨hopen, hd⟩ := (waiting_eq_none_iff ..).1 h
    exact ⟨hd, hopen, e, hm⟩

end

/-- A reply of the network, or the closing of the connection when there is none. -/
def Offers (n : Network) (reply : Reply) : Prop := reply ∈ n.replies ∨ reply = ⟨[], true⟩

theorem offers_answer (l : Link) (r : Request) : Offers l.network (l.answer r).1 := by
  rw [answer, Offers]
  split
  · exact .inr rfl
  · next reply replies heq =>
    exact .inl (heq ▸ List.mem_cons_self)

theorem replies_answer (l : Link) (r : Request) :
    (l.answer r).2.network.replies <:+ l.network.replies := by
  rw [answer]
  split
  · exact List.suffix_refl _
  · next reply replies heq =>
    rw [heq]
    exact List.suffix_cons reply replies

theorem received_answer (l : Link) (r : Request) :
    (l.answer r).2.received = l.received ++ [r] := by
  rw [answer]
  split <;> rfl

section

variable {deadline : Option Nat} {r : Request} {l l' : Link}

/-- An exchange without a result waits for the rest of a head. -/
theorem exchange_eq_none (h : exchange deadline r l = none) :
    deadline = none ∧ ∃ reply ∈ l.network.replies, reply.closes = false ∧
      ∃ e, readFinalHead reply.bytes = .more e := by
  rcases exchange_cases deadline r l with ⟨-, he⟩ | ⟨_, _, -, -, he⟩ | ⟨a, -, -, he⟩
  · cases he.symm.trans h
  · cases he.symm.trans h
  · obtain ⟨hd, hopen, hm⟩ := readReply_eq_none (he.symm.trans h)
    rcases offers_answer (l.without a) r with ho | ho
    · exact ⟨hd, _, ho, hopen, hm⟩
    · rw [ho] at hopen
      cases hopen

/-- An arrival is what has been read of a reply. -/
theorem exchange_eq_ok {a : Arrival Unit} (h : exchange deadline r l = some (.ok a, l')) :
    l'.network.replies <:+ l.network.replies ∧ ∃ reply, Offers l.network reply ∧
      readFinalHead reply.bytes = .done (a.head, a.framing) a.connection.unread ∧
      a.connection.closed = reply.closes := by
  rcases exchange_cases deadline r l with ⟨-, he⟩ | ⟨_, _, -, -, he⟩ | ⟨address, -, -, he⟩
  · cases he.symm.trans h
  · cases he.symm.trans h
  · obtain ⟨rfl, ⟨head, framing, rest, hx, hd⟩ | ⟨e, hx⟩ | hx⟩ :=
      readReply_eq_some (he.symm.trans h)
    · cases hx
      exact ⟨replies_answer (l.without address) r, _, offers_answer (l.without address) r, hd, rfl⟩
    · cases hx
    · cases hx

end

end Liveness.Http.Link
