import Liveness.Proofs.Http.Courses

/-! Which links a fetch cannot tell apart. A connection that has been kept leads to where a new
one would, and is used only if nothing is left on it, so that it makes no difference; nor do
requests that have been received, or replies that a fetch does not reach. -/

namespace Liveness.Http

open Text

section

variable {α β : Type} {I fine : Link → Prop} {S : Link → Link → Prop} {P : α → Prop}
  {Q : β → Prop}

/-- What a computation does over a link that `I` holds of: `I` holds of the link that it ends
with, and if that is fine, then so was the first, and over each link related to the first the
computation gives the same and ends with a related one. -/
def Carries (I fine : Link → Prop) (S : Link → Link → Prop) (P : α → Prop)
    (x : StateT Link Option α) : Prop :=
  ∀ l a l', I l → x l = some (a, l') →
    I l' ∧ P a ∧ (fine l' → fine l ∧ ∀ m, S l m → ∃ m', x m = some (a, m') ∧ S l' m')

theorem Carries.pure {a : α} (h : P a) : Carries I fine S P (pure a) := by
  intro l b l' hi heq
  cases heq
  exact ⟨hi, h, fun hfine => ⟨hfine, fun m hs => ⟨m, rfl, hs⟩⟩⟩

theorem Carries.bind {x : StateT Link Option α} {k : α → StateT Link Option β}
    (hx : Carries I fine S P x) (hk : ∀ a, P a → Carries I fine S Q (k a)) :
    Carries I fine S Q (x >>= k) := by
  intro l b l' hi heq
  rw [Link.bind_apply, Option.bind_eq_some_iff] at heq
  obtain ⟨⟨a, l₁⟩, ha, hb⟩ := heq
  obtain ⟨hi₁, hp, hfirst⟩ := hx l a l₁ hi ha
  obtain ⟨hi', hq, hsecond⟩ := hk a hp l₁ b l' hi₁ hb
  refine ⟨hi', hq, fun hfine => ?_⟩
  -- from the end back: the link between the two is fine since the last is
  obtain ⟨hfine₁, hthen⟩ := hsecond hfine
  obtain ⟨hfine₀, hnow⟩ := hfirst hfine₁
  refine ⟨hfine₀, fun m hs => ?_⟩
  obtain ⟨m₁, ha', hs₁⟩ := hnow m hs
  obtain ⟨m', hb', hs'⟩ := hthen m₁ hs₁
  refine ⟨m', ?_, hs'⟩
  rw [Link.bind_apply, ha']
  exact hb'

theorem Carries.map {x : StateT Link Option α} {f : α → β} (hx : Carries I fine S P x)
    (hf : ∀ a, P a → Q (f a)) : Carries I fine S Q (f <$> x) := by
  rw [← bind_pure_comp]
  exact hx.bind fun a hp => .pure (hf a hp)

end

/-- The link is over a network that reaches certain addresses, and each connection that is kept
leads to one of them. -/
structure Over (fault? : Address → Option ConnectFault) (l : Link) : Prop where
  network : l.network.fault? = fault?
  idle : ∀ c ∈ l.idle, fault? c.address = none

section

variable {fault? : Address → Option ConnectFault} {l : Link} {deadline : Option Nat}
  {r : Request} {a : Address}

theorem over_ofNetwork (n : Network) : Over n.fault? (.ofNetwork n) :=
  ⟨rfl, fun _ hc => nomatch hc⟩

theorem Over.without (h : Over fault? l) (a : Address) : Over fault? (l.without a) :=
  ⟨h.network, fun c hc => h.idle c (List.mem_filter.1 hc).1⟩

theorem Over.keep (h : Over fault? l) {c : Connection Unit} (hc : fault? c.address = none)
    (head : Head) : Over fault? (l.keep head c) := by
  rw [Link.keep]
  split
  · exact ⟨h.network, List.forall_mem_cons.2 ⟨hc, h.idle⟩⟩
  · exact h

theorem Over.answer (h : Over fault? l) (r : Request) : Over fault? (l.answer r).2 := by
  rw [Link.answer]
  split <;> exact ⟨h.network, h.idle⟩

/-- What keeps a new connection from being made keeps a request from being sent, since no
connection to the address is kept either. -/
theorem Over.exchange_of_fault (h : Over fault? l) (ha : address? r.url = some a)
    {e : ConnectFault} (hf : fault? a = some e) :
    Link.exchange deadline r l = some (.error (.connect e), l.without a) := by
  apply Link.exchange_of_connect_error ha
  rcases Link.connect_cases deadline a l with ⟨-, hnone | ⟨c, hc, rfl⟩⟩ | ⟨e', he', hconnect⟩
  · rw [h.network, hf] at hnone
    cases hnone
  · cases (h.idle c hc).symm.trans hf
  · rw [h.network, hf] at he'
    cases he'
    exact hconnect

theorem Over.fault?_eq (h : Over fault? l) (a : Address) : l.network.fault? a = fault? a := by
  rw [h.network]

end

section

variable (w : Wire (StateT Link Option) Unit) (start : Nat) (deadline : Option Nat)

/-- Takes the body of an arrival. -/
def conclude (a : Arrival Unit) : StateT Link Option (Except Fault Response) := do
  match ← w.receive deadline a with
  | .ok body => return .ok ⟨a.head.status.toUInt16, body, (← w.now) - start⟩
  | .error e => return .error (.receive e)

/-- Goes where a redirect leads, if as many may be followed. -/
def goOn (r next : Request) : Nat → StateT Link Option (Except Fault Response)
  | 0 => return .error (.tooManyRedirects r.url)
  | redirects + 1 => follow w start deadline redirects next

def respond (redirects : Nat) (r : Request) :
    Except SendFault (Arrival Unit) → StateT Link Option (Except Fault Response)
  | .error e => return .error (.send r.url e)
  | .ok a =>
    match redirect? r a.head with
    | none => conclude w start deadline a
    | some next => do
      w.discard a
      goOn w start deadline r next redirects

theorem follow_eq (redirects : Nat) (r : Request) :
    follow w start deadline redirects r =
      w.exchange deadline r >>= respond w start deadline redirects r := by
  rw [follow.eq_def]
  refine congrArg (w.exchange deadline r >>= ·) (funext fun x => ?_)
  cases x with
  | error e => rfl
  | ok a =>
    dsimp only [respond]
    cases redirect? r a.head with
    | none => rfl
    | some next => cases redirects <;> rfl

end

/-- An arrival has come from an address that is reached. -/
def IsFrom (fault? : Address → Option ConnectFault) (x : Except SendFault (Arrival Unit)) : Prop :=
  ∀ a, x = .ok a → fault? a.connection.address = none

theorem isFrom_error {fault? : Address → Option ConnectFault} (e : SendFault) :
    IsFrom fault? (.error e) := fun _ ha => nomatch ha

/-- Links that no operation tells apart, as long as they are fine. -/
structure Indifferent (s : Supply) (fault? : Address → Option ConnectFault)
    (fine : Link → Prop) (S : Link → Link → Prop) : Prop where
  exchange : ∀ deadline r,
    Carries (Over fault?) fine S (IsFrom fault?) (s.wire.exchange deadline r)
  keep : ∀ l m head (c : Connection Unit), fault? c.address = none → S l m →
    S (l.keep head c) (m.keep head c)
  kept : ∀ l head (c : Connection Unit), fine (Link.keep l head c) → fine l

section

variable {s : Supply} {fault? : Address → Option ConnectFault} {fine : Link → Prop}
  {S : Link → Link → Prop} {start : Nat} {deadline : Option Nat} {a : Arrival Unit} {r : Request}

/-- What is waited for tells what comes of waiting. -/
theorem waiting_congr {α ε : Type} {l l' : Link} {closed : Bool} {ended late : ε}
    {x : Except ε α} (heq : l.waiting closed deadline ended late = some (x, l')) (m : Link) :
    m.waiting closed deadline ended late = some (x, m) := by
  cases closed with
  | true =>
    cases heq
    rfl
  | false =>
    cases deadline with
    | none => cases heq
    | some t =>
      cases heq
      rfl

theorem Indifferent.receive (h : Indifferent s fault? fine S)
    (ha : fault? a.connection.address = none) :
    Carries (Over fault?) fine S (fun _ => True) (s.wire.receive deadline a) := by
  intro l x l' hl heq
  change Link.receive deadline a l = _ at heq
  change _ ∧ _ ∧ (_ → _ ∧ ∀ m, _ → ∃ m', Link.receive deadline a m = _ ∧ _)
  simp only [Link.receive_apply, Link.readArrival] at heq ⊢
  cases hread : readBody a.framing a.connection.closed a.connection.unread with
  | done body rest =>
    simp only [hread] at heq ⊢
    cases heq
    have hover := hl.keep (c := { a.connection with unread := rest }) ha a.head
    exact ⟨hover, trivial, fun hfine =>
      ⟨h.kept l _ _ hfine, fun m hs => ⟨_, rfl, h.keep l m _ _ ha hs⟩⟩⟩
  | failed e =>
    simp only [hread] at heq ⊢
    cases heq
    exact ⟨hl, trivial, fun hfine => ⟨hfine, fun m hs => ⟨m, rfl, hs⟩⟩⟩
  | more e =>
    simp only [hread] at heq ⊢
    cases (Link.waiting_eq_some heq).1
    exact ⟨hl, trivial, fun hfine => ⟨hfine, fun m hs => ⟨m, waiting_congr heq m, hs⟩⟩⟩

theorem Indifferent.discard (h : Indifferent s fault? fine S)
    (ha : fault? a.connection.address = none) :
    Carries (Over fault?) fine S (fun _ => True) (s.wire.discard a) := by
  intro l x l' hl heq
  change Link.discard a l = _ at heq
  change _ ∧ _ ∧ (_ → _ ∧ ∀ m, _ → ∃ m', Link.discard a m = _ ∧ _)
  -- whether the connection is kept is up to the arrival alone
  by_cases hread : ∃ body rest,
      readBody a.framing a.connection.closed a.connection.unread = .done body rest
  · obtain ⟨body, rest, hd⟩ := hread
    cases (Link.discard_of_done l hd).symm.trans heq
    have hover := hl.keep (c := { a.connection with unread := rest }) ha a.head
    exact ⟨hover, trivial, fun hfine => ⟨h.kept l _ _ hfine, fun m hs =>
      ⟨_, Link.discard_of_done m hd, h.keep l m _ _ ha hs⟩⟩⟩
  · have hdrop := fun l => Link.discard_of_not_done l fun body rest hd => hread ⟨body, rest, hd⟩
    cases (hdrop l).symm.trans heq
    exact ⟨hl, trivial, fun hfine => ⟨hfine, fun m hs => ⟨m, hdrop m, hs⟩⟩⟩

theorem Indifferent.conclude (h : Indifferent s fault? fine S)
    (ha : fault? a.connection.address = none) :
    Carries (Over fault?) fine S (fun _ => True) (conclude s.wire start deadline a) := by
  apply (h.receive ha).bind
  intro y _
  cases y with
  | ok body => exact (Carries.pure (P := fun _ => True) trivial).bind fun _ _ => .pure trivial
  | error e => exact .pure trivial

theorem Indifferent.respond (h : Indifferent s fault? fine S) {n : Nat}
    (hon : ∀ next, Carries (Over fault?) fine S (fun _ => True)
      (goOn s.wire start deadline r next n)) :
    Carries (Over fault?) fine S (fun _ => True)
      (s.wire.exchange deadline r >>= respond s.wire start deadline n r) := by
  apply (h.exchange deadline r).bind
  intro x hx
  cases x with
  | error e => exact .pure trivial
  | ok a =>
    have ha := hx a rfl
    rw [Http.respond]
    split
    · exact h.conclude ha
    · next next _ => exact (h.discard ha).bind fun _ _ => hon next

/-- A fetch does not tell apart what none of its operations does. -/
theorem Indifferent.follow (h : Indifferent s fault? fine S) (start n : Nat)
    (deadline : Option Nat) (r : Request) :
    Carries (Over fault?) fine S (fun _ => True) (follow s.wire start deadline n r) := by
  -- on how many redirects may be followed yet; each takes the place of the request
  induction n generalizing r with
  | zero =>
    rw [follow_eq]
    exact h.respond fun next => .pure trivial
  | succ n ih =>
    rw [follow_eq]
    exact h.respond ih

theorem Indifferent.fetch (h : Indifferent s fault? fine S) (c : Client) (u : Url) :
    Carries (Over fault?) fine S (fun _ => True) (c.fetch s.wire u) := by
  rw [Client.fetch]
  split
  · exact .pure trivial
  · next v =>
    rw [Client.fetchUrl]
    split
    · exact .pure trivial
    · split
      · exact .pure trivial
      · split
        · exact .pure trivial
        · apply (Carries.pure (P := fun _ => True) trivial).bind
          intro start _
          exact h.follow start maxRedirects _ _

end

/-- The other link is over the same network, and has the same replies but for some at the end. -/
structure Shorter (fault? : Address → Option ConnectFault) (rest : List Reply) (l m : Link) :
    Prop where
  reached : Over fault? m
  replies : l.network.replies = m.network.replies ++ rest

/-- The replies that the other link does not have are all left. -/
def Spares (rest : List Reply) (l : Link) : Prop := rest <:+ l.network.replies

section

variable {fault? : Address → Option ConnectFault} {rest : List Reply} {l m : Link}
  {deadline : Option Nat} {a : Address} {reply : Reply} {r : Request}

theorem readReply_congr {x : Except SendFault (Arrival Unit)} {l' : Link}
    (heq : Link.readReply deadline a reply l = some (x, l')) (m : Link) :
    Link.readReply deadline a reply m = some (x, m) := by
  unfold Link.readReply at heq ⊢
  split at heq
  · cases heq
    rfl
  · cases heq
    rfl
  · exact waiting_congr heq m

theorem isFrom_of_readReply {x : Except SendFault (Arrival Unit)} {l' : Link}
    (heq : Link.readReply deadline a reply l = some (x, l')) (ha : fault? a = none) :
    IsFrom fault? x := by
  obtain ⟨-, ⟨_, _, _, rfl, -⟩ | ⟨e, rfl⟩ | rfl⟩ := Link.readReply_eq_some heq
  · rintro _ ⟨⟩
    exact ha
  · exact isFrom_error _
  · exact isFrom_error _

theorem spares_of_answer (h : Spares rest (l.answer r).2) : Spares rest l :=
  List.IsSuffix.trans h (Link.replies_answer l r)

theorem Shorter.without (h : Shorter fault? rest l m) (a : Address) :
    Shorter fault? rest (l.without a) (m.without a) := ⟨h.reached.without a, h.replies⟩

/-- A shorter list gives the same reply, unless it has ended and the other has not. -/
theorem Shorter.answer (h : Shorter fault? rest l m) (r : Request)
    (hrest : Spares rest (l.answer r).2) :
    (m.answer r).1 = (l.answer r).1 ∧ Shorter fault? rest (l.answer r).2 (m.answer r).2 := by
  have hreplies := h.replies
  have hover := h.reached.answer r
  cases hm : m.network.replies with
  | cons reply replies =>
    rw [hm, List.cons_append] at hreplies
    rw [Link.answer_of_cons hm] at hover ⊢
    rw [Link.answer_of_cons hreplies]
    exact ⟨rfl, hover, rfl⟩
  | nil =>
    rw [hm, List.nil_append] at hreplies
    cases rest with
    | nil =>
      rw [Link.answer_of_nil hm] at hover ⊢
      rw [Link.answer_of_nil hreplies]
      exact ⟨rfl, hover, h.replies⟩
    | cons reply rest =>
      rw [Link.answer_of_cons hreplies] at hrest
      exact absurd hrest.length_le (Nat.not_succ_le_self _)

/-- No exchange tells a link from one whose replies end where this one is to end. -/
theorem carries_exchange (fault? : Address → Option ConnectFault) (rest : List Reply)
    (deadline : Option Nat) (r : Request) :
    Carries (Over fault?) (Spares rest) (Shorter fault? rest) (IsFrom fault?)
      (Link.exchange deadline r) := by
  intro l x l' hl heq
  cases ha : address? r.url with
  | none =>
    rw [Link.exchange_of_none ha] at heq
    cases heq
    exact ⟨hl, isFrom_error _, fun hrest =>
      ⟨hrest, fun m hm => ⟨m, Link.exchange_of_none ha, hm⟩⟩⟩
  | some a =>
    cases hf : fault? a with
    | some e =>
      rw [hl.exchange_of_fault ha hf] at heq
      cases heq
      exact ⟨hl.without a, isFrom_error _, fun hrest =>
        ⟨hrest, fun m hm => ⟨_, hm.reached.exchange_of_fault ha hf, hm.without a⟩⟩⟩
    | none =>
      rw [Link.exchange_of_reached ((hl.fault?_eq a).trans hf) ha] at heq
      obtain ⟨rfl, -⟩ := Link.readReply_eq_some heq
      refine ⟨(hl.without a).answer r, isFrom_of_readReply heq hf, fun hrest => ?_⟩
      refine ⟨spares_of_answer (l := l.without a) hrest, fun m hm => ?_⟩
      obtain ⟨hreply, hshort⟩ := (hm.without a).answer r hrest
      refine ⟨_, ?_, hshort⟩
      rw [Link.exchange_of_reached ((hm.reached.fault?_eq a).trans hf) ha, hreply]
      exact readReply_congr heq _

theorem indifferent_shorter (fault? : Address → Option ConnectFault) (rest : List Reply) :
    Indifferent .listed fault? (Spares rest) (Shorter fault? rest) := by
  constructor
  · exact carries_exchange fault? rest
  · intro l m head c hc h
    refine ⟨h.reached.keep hc head, ?_⟩
    rw [Link.network_keep, Link.network_keep]
    exact h.replies
  · intro l head c h
    rw [Spares, Link.network_keep] at h
    exact h

theorem Over.stock (h : Over fault? l) (s : Supply) : Over fault? (s.stock l) := by
  cases s <;> exact ⟨h.network, h.idle⟩

/-- Where every request has the same reply, it does not matter what has been before. -/
theorem indifferent_endless (fault? : Address → Option ConnectFault) (reply : Reply) :
    Indifferent (.endless fun _ => reply) fault? (fun _ => True) (fun _ m => Over fault? m) := by
  constructor
  · intro deadline r l x l' hl heq
    obtain ⟨hl', hx, hthen⟩ := carries_exchange fault? [] deadline r _ x l' (hl.stock _) heq
    refine ⟨hl', hx, fun _ => ⟨trivial, fun m hm => ?_⟩⟩
    have hstock : Shorter fault? [] ((Supply.endless fun _ => reply).stock l)
        ((Supply.endless fun _ => reply).stock m) := ⟨hm.stock _, rfl⟩
    obtain ⟨m', hm', hshort⟩ := (hthen List.nil_suffix).2 _ hstock
    exact ⟨m', hm', hshort.reached⟩
  · intro l m head c hc hm
    exact hm.keep hc head
  · intro l head c _
    trivial

end

end Liveness.Http
