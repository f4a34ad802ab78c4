import Liveness.Http.Pool
import Std.Internal.UV.DNS
import Std.Internal.UV.TCP
import Std.Internal.UV.Timer

/-! Requests over the sockets of the system. No connection can be made secure, so that an address
that asks for that has a fault of its own. -/

namespace Liveness.Http.Socket

open Std.Internal.UV
open Std.Net
open Text

/-- How waiting for the system ends. -/
inductive Awaited (α : Type) where
  | done (value : α)
  | failed (cause : IO.Error)
  | late

/-- Waits for what the system promises, up to a deadline. -/
def await (promise : IO.Promise (Except IO.Error α)) (deadline : Option Nat) :
    IO (Awaited α) := do
  let outcome := promise.result?.map fun
    | some (.ok a) => Awaited.done a
    | some (.error e) => .failed e
    | none => .late
  match deadline with
  | none => IO.wait outcome
  | some t =>
    let timer ← Timer.mk (t - (← IO.monoMsNow)).toUInt64 false
    let alarm := (← timer.next).result?.map fun _ => Awaited.late
    let first ← IO.waitAny [outcome, alarm]
    timer.stop
    return first

def byteOf (n : Nat) : UInt8 := n.toUInt8

def ipv4 (a : UInt32) : IPv4Addr :=
  let n := a.toNat
  ⟨#v[byteOf (n >>> 24), byteOf (n >>> 16), byteOf (n >>> 8), byteOf n]⟩

def ipv6 (a : Url.Host.Ipv6) : IPv6Addr := ⟨⟨a.groups.toArray, by simp [a.length_groups]⟩⟩

/-- The addresses of a host; several if its name has several. -/
def addresses (h : Url.Host) (deadline : Option Nat) : IO (Awaited (List IPAddr)) := do
  match h with
  | .ipv4 a => return .done [.v4 (ipv4 a)]
  | .ipv6 a => return .done [.v6 (ipv6 a)]
  | .domain name =>
    match ← await (← DNS.getAddrInfo name "" 0) deadline with
    | .done found => return .done found.toList
    | .failed e => return .failed e
    | .late => return .late

def endpoint (a : IPAddr) (port : UInt16) : SocketAddress :=
  match a with
  | .v4 a => .v4 ⟨a, port⟩
  | .v6 a => .v6 ⟨a, port⟩

/-- What the system says of a connection that it cannot make; the numbers of its errors
come negated. -/
def faultOf : IO.Error → ConnectFault
  | .noSuchThing file code details =>
    if 0 - code = 111 then .refused
    else if 0 - code = 101 then .unreachable
    else .other (IO.Error.noSuchThing file code details).toString
  | e => .other e.toString

/-- A socket for the first of some endpoints that accepts a connection. -/
def openSocket (deadline : Option Nat) : List SocketAddress → IO (Except SendFault TCP.Socket)
  | [] => return .error (.connect .unknownHost)
  | e :: es => do
    let socket ← TCP.Socket.new
    match ← await (← socket.connect e) deadline with
    | .done _ => return .ok socket
    | .late => return .error .timedOut
    | .failed cause =>
      if es.isEmpty then return .error (.connect (faultOf cause)) else openSocket deadline es

def dial (deadline : Option Nat) (a : Address) : IO (Except SendFault TCP.Socket) := do
  match ← addresses a.host deadline with
  | .late => return .error .timedOut
  | .failed _ => return .error (.connect .unknownHost)
  | .done found =>
    let socket ← openSocket deadline (found.map (endpoint · a.port))
    return socket.bind fun socket =>
      if a.secure then .error (.connect (.insecure "secure connections are not supported"))
      else .ok socket

/-- Takes the next bytes of a connection, if there are any before the deadline. -/
def receiveMore (deadline : Option Nat) (c : Connection TCP.Socket) :
    IO (Option (Connection TCP.Socket)) := do
  match ← await (← c.line.recv? 65536) deadline with
  | .done (some more) => return some { c with unread := c.unread ++ more.toList }
  | .done none => return some { c with closed := true }
  | .failed _ => return some { c with closed := true }
  | .late =>
    c.line.cancelRecv
    return none

partial def collect (deadline : Option Nat) (enough : Bytes → Bool)
    (c : Connection TCP.Socket) : IO (Connection TCP.Socket) := do
  if enough c.unread || c.closed then return c
  match ← receiveMore deadline c with
  | some c => collect deadline enough c
  | none => return c

def send (deadline : Option Nat) (r : Request) (c : Connection TCP.Socket) :
    IO (Connection TCP.Socket) := do
  discard (await (← c.line.send #[⟨r.encode.toArray⟩]) deadline)
  return c

/-- What has come on a kept connection is there in no time. -/
def refresh (c : Connection TCP.Socket) : IO (Connection TCP.Socket) := do
  return (← receiveMore (some ((← IO.monoMsNow) + 1)) c).getD c

/-- The connections that are kept go with the program. -/
abbrev Sockets := StateT (List (Connection TCP.Socket)) IO

def lines : Lines Sockets TCP.Socket where
  now := IO.monoMsNow
  idle := get
  setIdle := set
  dial := fun deadline a => dial deadline a
  refresh := fun c => refresh c
  send := fun deadline r c => send deadline r c
  collect := fun deadline enough c => collect deadline enough c

def wire : Wire Sockets TCP.Socket := lines.wire

end Liveness.Http.Socket
