import Liveness.Http.Wire

/-! How a client uses connections. One that a response has been read from is kept for the
next request to its address, unless there is more on it or its other end is closed. -/

namespace Liveness.Http

open Text

variable {κ : Type}

/-- A request may be sent on a connection that has nothing left on it and is open. -/
def Connection.isReusable (c : Connection κ) : Bool := c.unread.isEmpty && !c.closed

/-- Whether the other end means to keep the connection of a response for more. -/
def Head.keepsConnection (h : Head) : Bool := h.keepsAlive && h.status ≠ 101

/-- What connections are made of. Requests are made one after the other, so that at most one
connection is kept for an address. -/
structure Lines (m : Type → Type) (κ : Type) where
  now : m Nat
  /-- The connections that are kept. -/
  idle : m (List (Connection κ))
  setIdle : List (Connection κ) → m Unit
  dial : (deadline : Option Nat) → Address → m (Except SendFault κ)
  /-- Takes what has come on a connection while it was kept. -/
  refresh : Connection κ → m (Connection κ)
  send : (deadline : Option Nat) → Request → Connection κ → m (Connection κ)
  /-- Takes what comes on a connection until that is enough, or it ends, or it is too late. -/
  collect : (deadline : Option Nat) → (enough : Bytes → Bool) → Connection κ → m (Connection κ)

namespace Lines

variable {m : Type → Type} [Monad m] (ls : Lines m κ)

/-- Takes the connection that is kept for an address. -/
def take (a : Address) : m (Option (Connection κ)) := do
  let idle ← ls.idle
  ls.setIdle (idle.filter (·.address ≠ a))
  match idle.find? (·.address = a) with
  | none => return none
  | some c => return some (← ls.refresh c)

/-- A connection to an address, the one that is kept for it or else a new one. -/
def connect (deadline : Option Nat) (a : Address) : m (Except SendFault (Connection κ)) := do
  match (← ls.take a).filter (·.isReusable) with
  | some c => return .ok c
  | none => return (← ls.dial deadline a).map fun line => ⟨line, a, [], false⟩

def keep (h : Head) (c : Connection κ) : m Unit := do
  if h.keepsConnection then ls.setIdle (c :: (← ls.idle))

/-- Sends a request and reads the head of the response. -/
def exchange (deadline : Option Nat) (r : Request) : m (Except SendFault (Arrival κ)) := do
  match address? r.url with
  | none => return .error .noHost
  | some a =>
    match ← ls.connect deadline a with
    | .error e => return .error e
    | .ok c =>
      let c ← ls.send deadline r c
      let c ← ls.collect deadline (fun bs => !(readFinalHead bs).isMore) c
      match readFinalHead c.unread with
      | .done (head, framing) rest => return .ok ⟨{ c with unread := rest }, head, framing⟩
      | .failed e => return .error (.head e)
      | .more e => return .error (if c.closed then .head e else .timedOut)

def receive (deadline : Option Nat) (a : Arrival κ) : m (Except ReceiveFault Bytes) := do
  let c ← ls.collect deadline (fun bs => !(readBody a.framing false bs).isMore) a.connection
  match readBody a.framing c.closed c.unread with
  | .done body rest =>
    ls.keep a.head { c with unread := rest }
    return .ok body
  | .failed e => return .error (.body e)
  | .more e => return .error (if c.closed then .body e else .timedOut)

/-- The body is passed over if it has come. -/
def discard (a : Arrival κ) : m Unit :=
  match readBody a.framing a.connection.closed a.connection.unread with
  | .done _ rest => ls.keep a.head { a.connection with unread := rest }
  | _ => return ()

def wire : Wire m κ := ⟨ls.now, ls.exchange, ls.receive, ls.discard⟩

end Lines

end Liveness.Http
