import Liveness.Http.Body

/-! What a client asks of the network: to exchange a request for the head of a response,
and then for its body. -/

namespace Liveness.Http

open Text

structure Address where
  secure : Bool
  host : Url.Host
  port : UInt16
  deriving DecidableEq

/-- Where a request for a URL goes; what is not secure goes to port 80 by default. -/
def address? (u : Url) : Option Address :=
  u.host?.map fun h =>
    let secure : Bool := u.scheme = "https"
    ⟨secure, h, (u.authority.bind (·.port)).getD (if secure then 443 else 80)⟩

/-- Why there is no connection. -/
inductive ConnectFault where
  | refused
  | unreachable
  | unknownHost
  | other (reason : String)
  /-- There is a connection, but it cannot be made secure. -/
  | insecure (reason : String)
  deriving DecidableEq, Repr

def ConnectFault.message : ConnectFault → String
  | .refused => "error trying to connect: tcp connect error: Connection refused (os error 111)"
  | .unreachable =>
    "error trying to connect: tcp connect error: Network is unreachable (os error 101)"
  | .unknownHost =>
    "error trying to connect: dns error: failed to lookup address information: " ++
      "Name or service not known"
  | .other reason => "error trying to connect: tcp connect error: " ++ reason
  | .insecure reason => "error trying to connect: " ++ reason

/-- Why a request has no response. -/
inductive SendFault where
  /-- The URL of the request has no host. -/
  | noHost
  | connect (cause : ConnectFault)
  | head (cause : HeadFault)
  | timedOut
  deriving DecidableEq, Repr

def SendFault.message : SendFault → String
  | .noHost => "client requires absolute-form URIs"
  | .connect c => c.message
  | .head c => c.message
  | .timedOut => "operation timed out"

/-- Why a response has no body. -/
inductive ReceiveFault where
  | body (cause : BodyFault)
  | timedOut
  deriving DecidableEq, Repr

def ReceiveFault.message : ReceiveFault → String
  | .body c => "error reading a body from connection: " ++ c.message
  | .timedOut => "operation timed out"

/-- The head of the response proper, behind any interim ones, with its framing. -/
def readFinalHead (bs : Bytes) : HeadReading (Head × Framing) :=
  match _h : readHead bs with
  | .more e => .more e
  | .failed e => .failed e
  | .done head rest =>
    if _hi : head.isInterim then readFinalHead rest
    else
      match head.framing with
      | .ok f => .done (head, f) rest
      | .error e => .failed e
termination_by bs.length
decreasing_by
  have := readHead_leaves bs _ _ _h
  match bs with
  | [] => simp [readHead, readLines, skipEmptyLines, Reading.bind, maxHead] at _h
  | _ :: _ => simp at this ⊢; omega

/-- A connection over some line: what has come on it and is not read yet, and whether no more
will come. -/
structure Connection (κ : Type) where
  line : κ
  address : Address
  unread : Bytes
  closed : Bool

/-- A response whose head has been read from its connection. -/
structure Arrival (κ : Type) where
  connection : Connection κ
  head : Head
  framing : Framing

/-- How requests reach servers. Times are milliseconds of its clock; nothing is waited
for beyond a deadline. -/
structure Wire (m : Type → Type) (κ : Type) where
  now : m Nat
  exchange : (deadline : Option Nat) → Request → m (Except SendFault (Arrival κ))
  receive : (deadline : Option Nat) → Arrival κ → m (Except ReceiveFault Bytes)
  /-- Gives up a response without its body. -/
  discard : Arrival κ → m Unit

end Liveness.Http
