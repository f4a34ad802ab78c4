import Liveness.Http.Pool

/-! The network as a client sees it: some addresses lead to one server, which answers each
request with the next of its replies. -/

namespace Liveness.Http

open Text

/-- The bytes sent in answer to a request, and whether the connection is closed then. -/
structure Reply where
  bytes : Bytes
  closes : Bool
  deriving DecidableEq, Repr

/-- What keeps a connection to an address from being made, if anything does, and the replies
of the server. When these are used up, requests are answered by closing. -/
structure Network where
  fault? : Address → Option ConnectFault
  replies : List Reply

def Network.unreachable : Network := ⟨fun _ => some .unreachable, []⟩

/-- The network, the connections that are kept, and the requests that have been received. -/
structure Link where
  network : Network
  idle : List (Connection Unit)
  received : List Request

namespace Link

def ofNetwork (n : Network) : Link := ⟨n, [], []⟩

/-- Takes a request and the reply to it. -/
def answer (l : Link) (r : Request) : Reply × Link :=
  let received := l.received ++ [r]
  match l.network.replies with
  | [] => (⟨[], true⟩, { l with received })
  | reply :: replies =>
    (reply, { l with network := { l.network with replies }, received })

/-- Sending takes no time, and a reply comes at once, behind what has come before. There is
no result where something is waited for without end. -/
def lines : Lines (StateT Link Option) Unit where
  now := pure 0
  idle := fun l => some (l.idle, l)
  setIdle := fun idle l => some ((), { l with idle })
  dial := fun _ a l =>
    match l.network.fault? a with
    | none => some (.ok (), l)
    | some e => some (.error (.connect e), l)
  refresh := pure
  send := fun _ r c l =>
    if c.closed then some (c, l)
    else
      let (reply, l) := l.answer r
      some ({ c with unread := c.unread ++ reply.bytes, closed := reply.closes }, l)
  collect := fun deadline enough c l =>
    if enough c.unread || c.closed || deadline.isSome then some (c, l) else none

def exchange : Option Nat → Request → StateT Link Option (Except SendFault (Arrival Unit)) :=
  lines.exchange

def receive : Option Nat → Arrival Unit → StateT Link Option (Except ReceiveFault Bytes) :=
  lines.receive

def discard : Arrival Unit → StateT Link Option Unit := lines.discard

def wire : Wire (StateT Link Option) Unit := ⟨pure 0, exchange, receive, discard⟩

end Link

end Liveness.Http
