import Liveness.Proofs.Http.Chain

/-! The exchanges of a fetch, one after the other: what the first is, which follows which, and
how the last decides what comes of the fetch. A fetch that waits without end has its exchanges
as well. -/

namespace Liveness.Http

open Text

/-- Where the replies to requests come from: they are those of the network, as long as there
are any, or are told by how many requests have come before, without end. -/
inductive Supply where
  | listed
  | endless (reply : Nat → Reply)

namespace Supply

/-- The link with the reply to the next request at hand. -/
def stock : Supply → Link → Link
  | listed, l => l
  | endless reply, l => { l with network.replies := [reply l.received.length] }

/-- The wire of a link whose server has such replies. -/
def wire (s : Supply) : Wire (StateT Link Option) Unit :=
  { Link.wire with exchange := fun deadline r l => Link.exchange deadline r (s.stock l) }

theorem wire_listed : listed.wire = Link.wire := rfl

@[simp] theorem received_stock (s : Supply) (l : Link) : (s.stock l).received = l.received := by
  cases s <;> rfl

@[simp] theorem fault?_stock (s : Supply) (l : Link) :
    (s.stock l).network.fault? = l.network.fault? := by
  cases s <;> rfl

end Supply

/-- The response to a request for one URL is a redirect to another, which is taken for that of a
request. -/
structure SendsTo (u : Url) (h : Head) (v : Url) : Prop where
  status : h.status ∈ [301, 302, 303, 307, 308]
  location : ∃ text, (h.first? "location").bind Utf8.decode? = some text ∧ u.join text = .ok v
  uri : isUri v

theorem location?_eq_some_iff {u v : Url} {h : Head} :
    location? u h = some v ↔ SendsTo u h v := by
  rw [location?]
  constructor
  · intro hl
    split at hl
    · next hs =>
      split at hl
      · cases hl
      · next text ht =>
        split at hl
        · next w hj =>
          split at hl
          · next hw =>
            cases hl
            exact ⟨List.contains_iff_mem.1 hs, ⟨text, ht, hj⟩, hw⟩
          · cases hl
        · cases hl
    · cases hl
  · rintro ⟨hs, ⟨text, ht, hj⟩, hv⟩
    have hredirect : isRedirect h.status = true := List.contains_iff_mem.2 hs
    simp only [hredirect, ht, hj, hv, if_true]

theorem redirect?_eq_none_iff {r : Request} {h : Head} :
    redirect? r h = none ↔ ∀ v, ¬ SendsTo r.url h v := by
  rw [redirect?, Option.map_eq_none_iff, Option.eq_none_iff_forall_ne_some]
  exact forall_congr' fun v => not_congr location?_eq_some_iff

theorem sendsTo_of_redirect? {r next : Request} {h : Head} (hr : redirect? r h = some next) :
    SendsTo r.url h next.url := by
  obtain ⟨v, hv, rfl⟩ := Option.map_eq_some_iff.1 hr
  exact location?_eq_some_iff.1 hv

/-- A request of a fetch, and the link that it is sent over. -/
structure Exchange where
  request : Request
  link : Link

namespace Exchange

variable (s : Supply) (deadline : Option Nat)

/-- What comes of an exchange; nothing if it is waited for without end. -/
def result (e : Exchange) : Option (Except SendFault (Arrival Unit) × Link) :=
  s.wire.exchange deadline e.request e.link

/-- The request is received unless there is no connection. -/
def sent (e : Exchange) : List Request :=
  match e.result s deadline with
  | some (.error .noHost, _) | some (.error (.connect _), _) => []
  | _ => [e.request]

/-- The response to one request sends the client on with the other, which goes over the link
that giving up the response leaves. -/
def SendsOn (e e' : Exchange) : Prop :=
  ∃ a l, e.result s deadline = some (.ok a, l) ∧
    redirect? e.request a.head = some e'.request ∧ s.wire.discard a l = some ((), e'.link)

/-- How an exchange ends a fetch that may follow so many redirects yet. -/
inductive Ends : Nat → Exchange → Option (Except Fault Response × Link) → Prop
  | waiting {n : Nat} {e : Exchange} : e.result s deadline = none → Ends n e none
  | unanswered {n : Nat} {e : Exchange} {fault : SendFault} {l : Link} :
      e.result s deadline = some (.error fault, l) →
      Ends n e (some (.error (.send e.request.url fault), l))
  | direct {n : Nat} {e : Exchange} {a : Arrival Unit} {l : Link} :
      e.result s deadline = some (.ok a, l) → redirect? e.request a.head = none →
      Ends n e ((s.wire.receive deadline a l).map fun y =>
        (match y.1 with
          | .ok body => .ok ⟨a.head.status.toUInt16, body, 0⟩
          | .error fault => .error (.receive fault), y.2))
  | tooMany {e : Exchange} {a : Arrival Unit} {l l' : Link} {next : Request} :
      e.result s deadline = some (.ok a, l) → redirect? e.request a.head = some next →
      s.wire.discard a l = some ((), l') →
      Ends 0 e (some (.error (.tooManyRedirects e.request.url), l'))

section

variable {s deadline} {n : Nat} {e : Exchange} {a : Arrival Unit} {l : Link}
  {res : Option (Except Fault Response × Link)}

theorem Ends.of_error (h : e.Ends s deadline n res) {fault : SendFault}
    (hx : e.result s deadline = some (.error fault, l)) :
    res = some (.error (.send e.request.url fault), l) := by
  cases h with
  | waiting hx' => cases hx.symm.trans hx'
  | unanswered hx' =>
    cases hx.symm.trans hx'
    rfl
  | direct hx' _ => cases hx.symm.trans hx'
  | tooMany hx' _ _ => cases hx.symm.trans hx'

theorem Ends.of_receive_error (h : e.Ends s deadline n res)
    (hx : e.result s deadline = some (.ok a, l)) (hr : redirect? e.request a.head = none)
    {fault : ReceiveFault} {l' : Link}
    (hb : s.wire.receive deadline a l = some (.error fault, l')) :
    res = some (.error (.receive fault), l') := by
  cases h with
  | waiting hx' => cases hx.symm.trans hx'
  | unanswered hx' => cases hx.symm.trans hx'
  | direct hx' _ =>
    cases hx.symm.trans hx'
    rw [hb]
    rfl
  | tooMany hx' hr' _ =>
    cases hx.symm.trans hx'
    cases hr.symm.trans hr'

theorem Ends.of_redirect (h : e.Ends s deadline n res) {next : Request}
    (hx : e.result s deadline = some (.ok a, l)) (hr : redirect? e.request a.head = some next) :
    ∃ l', res = some (.error (.tooManyRedirects e.request.url), l') := by
  cases h with
  | waiting hx' => cases hx.symm.trans hx'
  | unanswered hx' => cases hx.symm.trans hx'
  | direct hx' hr' =>
    cases hx.symm.trans hx'
    cases hr.symm.trans hr'
  | tooMany _ _ _ => exact ⟨_, rfl⟩

theorem Ends.eq_ok (h : e.Ends s deadline n res) {resp : Response}
    (hres : res = some (.ok resp, l)) :
    ∃ a l₁, e.result s deadline = some (.ok a, l₁) ∧ redirect? e.request a.head = none ∧
      s.wire.receive deadline a l₁ = some (.ok resp.body, l) ∧
      resp.status = a.head.status.toUInt16 := by
  cases h with
  | waiting _ => cases hres
  | unanswered _ => cases hres
  | direct hx hr =>
    obtain ⟨⟨y, l'⟩, hb, hy⟩ := Option.map_eq_some_iff.1 hres
    cases y with
    | error fault => cases hy
    | ok body =>
      cases hy
      exact ⟨_, _, hx, hr, hb, rfl⟩
  | tooMany _ _ _ => cases hres

theorem Ends.eq_none (h : e.Ends s deadline n res) (hres : res = none) :
    e.result s deadline = none ∨ ∃ a l₁, e.result s deadline = some (.ok a, l₁) ∧
      redirect? e.request a.head = none ∧ s.wire.receive deadline a l₁ = none := by
  cases h with
  | waiting hx => exact .inl hx
  | unanswered _ => cases hres
  | direct hx hr => exact .inr ⟨_, _, hx, hr, Option.map_eq_none_iff.1 hres⟩
  | tooMany _ _ _ => cases hres

end

end Exchange

/-- The exchanges of a fetch that may follow so many redirects, and what comes of it. -/
inductive Walk (s : Supply) (deadline : Option Nat) :
    Nat → List Exchange → Option (Except Fault Response × Link) → Prop
  | last {n : Nat} {e : Exchange} {res : Option (Except Fault Response × Link)} :
      e.Ends s deadline n res → Walk s deadline n [e] res
  | on {n : Nat} {e e' : Exchange} {es : List Exchange}
      {res : Option (Except Fault Response × Link)} :
      e.SendsOn s deadline e' → Walk s deadline n (e' :: es) res →
      Walk s deadline (n + 1) (e :: e' :: es) res

section

variable {s : Supply} {deadline : Option Nat}

/-- The first exchange ends a fetch, or the fetch goes on with another. -/
theorem follow_step (n : Nat) (r : Request) (l : Link) :
    Exchange.Ends s deadline n ⟨r, l⟩ (follow s.wire 0 deadline n r l) ∨
      ∃ m e, n = m + 1 ∧ Exchange.SendsOn s deadline ⟨r, l⟩ e ∧
        follow s.wire 0 deadline n r l = follow s.wire 0 deadline m e.request e.link := by
  rcases hx : s.wire.exchange deadline r l with _ | ⟨fault | a, l₁⟩
  · rw [follow_of_waiting s.wire hx]
    exact .inl (.waiting hx)
  · rw [follow_of_error s.wire hx]
    exact .inl (.unanswered hx)
  · cases hr : redirect? r a.head with
    | none =>
      rw [follow_of_direct s.wire rfl hx hr]
      exact .inl (.direct hx hr)
    | some next =>
      obtain ⟨l₂, hd, -⟩ := Link.discard_eq_some a l₁
      cases n with
      | zero =>
        rw [follow_zero_of_redirect s.wire hx hr hd]
        exact .inl (.tooMany hx hr hd)
      | succ m =>
        exact .inr ⟨m, ⟨next, l₂⟩, rfl, ⟨a, l₁, hx, hr, hd⟩,
          follow_succ_of_redirect s.wire hx hr hd⟩

/-- Each fetch goes such a way, whether it ends or not. -/
theorem walk_of_follow (n : Nat) (r : Request) (l : Link) :
    ∃ es, Walk s deadline n (⟨r, l⟩ :: es) (follow s.wire 0 deadline n r l) := by
  -- by how many redirects may be followed yet; each takes the place of the request and the link
  induction n generalizing r l with
  | zero =>
    rcases follow_step 0 r l with h | ⟨_, _, hn, -⟩
    · exact ⟨[], .last h⟩
    · cases hn
  | succ n ih =>
    rcases follow_step (n + 1) r l with h | ⟨_, e, hn, hon, heq⟩
    · exact ⟨[], .last h⟩
    · cases hn
      obtain ⟨es, hes⟩ := ih e.request e.link
      exact ⟨e :: es, heq ▸ .on hon hes⟩

namespace Walk

variable {n : Nat} {es : List Exchange} {res : Option (Except Fault Response × Link)}

theorem length_le (h : Walk s deadline n es res) : es.length ≤ n + 1 := by
  induction h with
  | last _ => exact Nat.le_add_left 1 _
  | on _ _ ih => exact Nat.succ_le_succ ih

/-- Each exchange is the last and ends the fetch, or sends it on with the next. -/
theorem get (h : Walk s deadline n es res) {i : Nat} {e : Exchange} (he : es[i]? = some e) :
    (es.length = i + 1 ∧ e.Ends s deadline (n - i) res) ∨
      i < n ∧ ∃ e', es[i + 1]? = some e' ∧ e.SendsOn s deadline e' := by
  induction h generalizing i with
  | last hends =>
    cases i with
    | zero =>
      cases he
      exact .inl ⟨rfl, hends⟩
    | succ i => cases he
  | on hon hw ih =>
    cases i with
    | zero =>
      cases he
      exact .inr ⟨Nat.succ_pos _, _, rfl, hon⟩
    | succ i =>
      rcases ih he with ⟨hlen, hends⟩ | ⟨hi, e', he', hon'⟩
      · exact .inl ⟨congrArg (· + 1) hlen, by rwa [Nat.add_sub_add_right]⟩
      · exact .inr ⟨Nat.succ_lt_succ hi, e', he', hon'⟩

theorem exists_last (h : Walk s deadline n es res) :
    ∃ e m, es[es.length - 1]? = some e ∧ e.Ends s deadline m res := by
  induction h with
  | last hends => exact ⟨_, _, rfl, hends⟩
  | on _ _ ih => exact ih

end Walk

theorem Exchange.sent_of_noHost {e : Exchange} {l : Link}
    (h : e.result s deadline = some (.error .noHost, l)) : e.sent s deadline = [] := by
  rw [sent, h]

theorem Exchange.sent_of_connect {e : Exchange} {cause : ConnectFault} {l : Link}
    (h : e.result s deadline = some (.error (.connect cause), l)) : e.sent s deadline = [] := by
  rw [sent, h]

/-- A request whose reply is read, or waited for, has been received. -/
theorem Exchange.sent_of_readReply {e : Exchange} {a : Address} {reply : Reply} {l : Link}
    (h : e.result s deadline = Link.readReply deadline a reply l) :
    e.sent s deadline = [e.request] := by
  rw [sent, h]
  rcases hx : Link.readReply deadline a reply l with _ | ⟨x, l'⟩
  · rfl
  · obtain ⟨-, ⟨_, _, _, rfl, -⟩ | ⟨_, rfl⟩ | rfl⟩ := Link.readReply_eq_some hx
    · rfl
    · rfl
    · rfl

/-- A request is received unless its URL has no host, or what keeps a connection to that from being
made. -/
theorem Exchange.sent_cases (s : Supply) (deadline : Option Nat) (e : Exchange) :
    e.sent s deadline = [e.request] ∨ e.sent s deadline = [] ∧
      ((address? e.request.url = none ∧ ∃ l, e.result s deadline = some (.error .noHost, l)) ∨
        ∃ a cause l, address? e.request.url = some a ∧ e.link.network.fault? a = some cause ∧
          e.result s deadline = some (.error (.connect cause), l)) := by
  rcases Link.exchange_cases deadline e.request (s.stock e.link) with ⟨ha, hx⟩ |
    ⟨a, cause, ha, hf, hx⟩ | ⟨a, -, -, hx⟩
  · exact .inr ⟨sent_of_noHost hx, .inl ⟨ha, _, hx⟩⟩
  · exact .inr ⟨sent_of_connect hx, .inr ⟨a, cause, _, ha, s.fault?_stock e.link ▸ hf, hx⟩⟩
  · exact .inl (sent_of_readReply hx)

theorem Exchange.received {e : Exchange} {x : Except SendFault (Arrival Unit)} {l : Link}
    (h : e.result s deadline = some (x, l)) :
    l.received = e.link.received ++ e.sent s deadline := by
  rcases Link.exchange_cases deadline e.request (s.stock e.link) with ⟨-, hx⟩ |
    ⟨a, cause, -, -, hx⟩ | ⟨a, -, -, hx⟩
  · rw [sent_of_noHost hx]
    cases hx.symm.trans h
    simp
  · rw [sent_of_connect hx]
    cases hx.symm.trans h
    simp
  · -- the request has been put down with the reply, and reading the reply changes nothing
    rw [sent_of_readReply hx, (Link.readReply_eq_some (hx.symm.trans h)).1, Link.received_answer,
      Link.received_without, Supply.received_stock]

theorem Supply.received_discard {a : Arrival Unit} {l l' : Link}
    (h : s.wire.discard a l = some ((), l')) : l'.received = l.received := by
  obtain ⟨_, hd, -, hreceived⟩ := Link.discard_eq_some a l
  cases hd.symm.trans h
  exact hreceived

theorem Exchange.Ends.received {n : Nat} {e : Exchange}
    {res : Option (Except Fault Response × Link)} (h : e.Ends s deadline n res)
    {x : Except Fault Response} {l : Link} (hres : res = some (x, l)) :
    l.received = e.link.received ++ e.sent s deadline := by
  cases h with
  | waiting _ => cases hres
  | unanswered hx =>
    cases hres
    exact Exchange.received hx
  | direct hx _ =>
    obtain ⟨⟨y, l'⟩, hb, hy⟩ := Option.map_eq_some_iff.1 hres
    cases hy
    exact (Link.receive_eq_some hb).1.trans (Exchange.received hx)
  | tooMany hx _ hd =>
    cases hres
    exact (Supply.received_discard hd).trans (Exchange.received hx)

/-- What a server has received behind a fetch are the requests that have had a connection. -/
theorem Walk.received {n : Nat} {es : List Exchange}
    {res : Option (Except Fault Response × Link)} (h : Walk s deadline n es res) {e : Exchange}
    (he : es.head? = some e) {x : Except Fault Response} {l : Link} (hres : res = some (x, l)) :
    l.received = e.link.received ++ es.flatMap (Exchange.sent s deadline) := by
  induction h generalizing e with
  | last hends =>
    cases he
    rw [List.flatMap_singleton]
    exact hends.received hres
  | on hon _ ih =>
    cases he
    obtain ⟨a, l₁, hx, -, hd⟩ := hon
    rw [ih rfl hres, Supply.received_discard hd, Exchange.received hx]
    simp only [List.flatMap_cons, List.append_assoc]

end

end Liveness.Http
