import Liveness.Check.Basic
import Liveness.Http.Wire
import Liveness.Url.Join

/-! A client: it asks for a URL with GET and goes where redirects lead, a few times. -/

namespace Liveness.Http

open Text

structure Client where
  timeoutSecs : Option UInt64
  userAgent : Option Bytes
  deriving DecidableEq, Repr

/-- A client without settings. -/
def Client.plain : Client := ⟨none, none⟩

/-- A client that gives up after a time and names itself, if a header can hold the
name. -/
def Client.ofSettings? (timeoutSecs : Option UInt64) : Option String → Option Client
  | none => some ⟨timeoutSecs, none⟩
  | some agent => (headerValue? agent).map fun v => ⟨timeoutSecs, some v⟩

/-- Why a fetch brings no response. -/
inductive Fault where
  /-- The written form of a URL is not one that can be read. -/
  | unreadableUrl (cause : Url.Error)
  | badScheme (url : Url)
  | badUrl (url : Url)
  | send (url : Url) (cause : SendFault)
  | tooManyRedirects (url : Url)
  | receive (cause : ReceiveFault)
  deriving DecidableEq

def Fault.message : Fault → String
  | .unreadableUrl c => "builder error: " ++ c.message
  | .badScheme u => "builder error for url (" ++ u.toText ++ "): URL scheme is not allowed"
  | .badUrl u => "builder error for url (" ++ u.toText ++ "): Parsed Url is not a valid Uri"
  | .send u c => "error sending request for url (" ++ u.toText ++ "): " ++ c.message
  | .tooManyRedirects u =>
    "error following redirect for url (" ++ u.toText ++ "): too many redirects"
  | .receive c => "request or response body error: " ++ c.message

def isRedirect (status : Nat) : Bool := [301, 302, 303, 307, 308].contains status

/-- Where a redirect leads, if that is taken for something to request. -/
def location? (from' : Url) (h : Head) : Option Url :=
  if isRedirect h.status then
    match (h.first? "location").bind Utf8.decode? with
    | none => none
    | some s =>
      match from'.join s with
      | .ok u => if isUri u then some u else none
      | .error _ => none
  else none

/-- The URL that a request came from is told, without what is private, and not at all
when the next request is in the open and the last was not. -/
def referer? (from' next : Url) : Option Header :=
  if next.scheme = "http" ∧ from'.scheme = "https" then none
  else
    let u := { withoutUserinfo from' with fragment := none }
    some ⟨"referer", Utf8.encode u.toText⟩

/-- Whether two URLs have the same host and port, given or by default. -/
def sameServer (u v : Url) : Bool := u.host? = v.host? && u.effectivePort? = v.effectivePort?

/-- Credentials are not passed on to another server. -/
def headersFor (from' next : Url) (hs : List Header) : List Header :=
  let hs := match referer? from' next with
    | some h => setHeader h hs
    | none => hs
  if sameServer from' next then hs else removeHeader "authorization" hs

/-- The request that a redirect asks for. -/
def redirect? (r : Request) (h : Head) : Option Request :=
  (location? r.url h).map fun next => ⟨next, headersFor r.url next r.headers⟩

/-- How many redirects are followed. -/
def maxRedirects : Nat := 9

variable {m : Type → Type} [Monad m] {κ : Type}

/-- The response that a request leads to, with at most `redirects` more requests. -/
def follow (w : Wire m κ) (start : Nat) (deadline : Option Nat) (redirects : Nat) (r : Request) :
    m (Except Fault Response) := do
  match ← w.exchange deadline r with
  | .error e => return .error (.send r.url e)
  | .ok arrival =>
    match redirect? r arrival.head with
    | none =>
      match ← w.receive deadline arrival with
      | .ok body => return .ok ⟨arrival.head.status.toUInt16, body, (← w.now) - start⟩
      | .error e => return .error (.receive e)
    | some next =>
      w.discard arrival
      match redirects with
      | 0 => return .error (.tooManyRedirects r.url)
      | redirects + 1 => follow w start deadline redirects next

/-- The response to the first request for a URL of the web, and to those it leads to. -/
def Client.fetchUrl (c : Client) (w : Wire m κ) (u : Url) : m (Except Fault Response) := do
  let r := Request.ofUrl c.userAgent u
  if u.host? = none then return .error (.badScheme u)
  else if u.scheme ≠ "http" ∧ u.scheme ≠ "https" then return .error (.badScheme r.url)
  else if !isUri r.url then return .error (.badUrl r.url)
  else
    let start ← w.now
    follow w start (c.timeoutSecs.map fun s => start + 1000 * s.toNat) maxRedirects r

/-- Fetches what is at a URL. A client is given the URL as a text, and reads it. -/
def Client.fetch (c : Client) (w : Wire m κ) (u : Url) : m (Except Fault Response) :=
  match Url.parse u.toText with
  | .error e => return .error (.unreadableUrl e)
  | .ok u => c.fetchUrl w u

end Liveness.Http
