import Liveness.Text.Base64
import Liveness.Url.Percent
import Liveness.Url.Printer

/-! Requests as they go over the wire. -/

namespace Liveness.Http

open Text

/-- A header line; the name is in small letters. -/
structure Header where
  name : String
  value : Bytes
  deriving DecidableEq, Repr

/-- Bytes that a value may hold: no control character but the tab. -/
def isValueByte (b : UInt8) : Bool := (0x20 ≤ b.toNat && b.toNat ≠ 0x7f) || b.toNat = 0x09

/-- The bytes of a text that is a value. -/
def headerValue? (s : String) : Option Bytes :=
  if (Utf8.encode s).all isValueByte then some (Utf8.encode s) else none

/-- Replaces the value of a header, or adds the header at the end. -/
def setHeader (h : Header) (hs : List Header) : List Header :=
  if hs.any (·.name = h.name) then hs.map fun g => if g.name = h.name then h else g
  else hs ++ [h]

/-- Takes a header out; the last one moves to its place. -/
def removeHeader (name : String) (hs : List Header) : List Header :=
  match hs.findIdx? (·.name = name), hs.getLast? with
  | some i, some last => (hs.set i last).dropLast
  | _, _ => hs

/-- A request for the resource at a URL. -/
structure Request where
  url : Url
  headers : List Header
  deriving DecidableEq

/-- Name and password that a URL gives, if both are texts. -/
def credentials? (u : Url) : Option (String × Option String) :=
  match u.authority with
  | none => none
  | some a =>
    match Utf8.decode? (Url.Percent.decode a.username.toList) with
    | none => none
    | some name =>
      let password := a.password.bind fun p => Utf8.decode? (Url.Percent.decode p.toList)
      if name = "" ∧ password = none then none else some (name, password)

def withoutUserinfo (u : Url) : Url :=
  { u with authority := u.authority.map fun a => { a with username := "", password := none } }

def authorization (c : String × Option String) : Header :=
  ⟨"authorization", Utf8.encode "Basic " ++
    Utf8.encode (String.ofList (Base64.encode (Utf8.encode (c.1 ++ ":" ++ c.2.getD ""))))⟩

namespace Request

/-- The first request for a URL. Credentials move from the URL to a header. -/
def ofUrl (userAgent : Option Bytes) (u : Url) : Request :=
  let headers := ⟨"accept", Utf8.encode "*/*"⟩ ::
    (userAgent.map fun v => (⟨"user-agent", v⟩ : Header)).toList
  match credentials? u with
  | none => ⟨u, headers⟩
  | some c => ⟨withoutUserinfo u, authorization c :: headers⟩

/-- The host, and the port unless it is the usual one. -/
def hostHeader (u : Url) : Header :=
  let host := ((u.host?).map Url.Host.print).getD []
  let usual : UInt16 := if u.scheme = "https" ∨ u.scheme = "wss" then 443 else 80
  let port := match u.authority.bind (·.port) with
    | some p => if p = usual then [] else ':' :: Nat.toDigits 10 p.toNat
    | none => []
  ⟨"host", Utf8.encode (String.ofList (host ++ port))⟩

/-- What the request line names: the path, which is never empty, and the query. -/
def target (u : Url) : List Char :=
  let path := u.path.print
  (if path = [] then ['/'] else path) ++ u.printQuery

def crlf : Bytes := [0x0D, 0x0A]

def encodeHeader (h : Header) : Bytes := Utf8.encode h.name ++ [0x3A, 0x20] ++ h.value ++ crlf

def allHeaders (r : Request) : List Header := r.headers ++ [hostHeader r.url]

def line (r : Request) : Bytes :=
  Utf8.encode "GET " ++ Utf8.encode (String.ofList (target r.url)) ++ Utf8.encode " HTTP/1.1"

def encode (r : Request) : Bytes :=
  r.line ++ crlf ++ r.allHeaders.flatMap encodeHeader ++ crlf

end Request

/-- The longest URL, in bytes. -/
def maxUrl : Nat := 65534

/-- The longest scheme in front of a host. -/
def maxScheme : Nat := 64

/-- Characters of hosts in requests. -/
def isHostChar (c : Char) : Bool :=
  c.isAlphanum || ['-', '.', '_', '~', '!', '$', '&', '\'', '(', ')', '*', '+', ',', ';', '=',
    '[', ']', ':'].contains c

/-- Reads on in what may be a host with a port, behind a name and a password. Colons and
escapes count only from the last at sign or the end of an address in brackets. -/
def isAuthorityFrom (colons : Nat) (opened closed escaped : Bool) : List Char → Bool
  | [] => colons ≤ 1 && opened == closed && !escaped
  | c :: cs =>
    if c = ':' then colons < 8 && isAuthorityFrom (colons + 1) opened closed escaped cs
    else if c = '[' then !opened && !escaped && isAuthorityFrom colons true closed escaped cs
    else if c = ']' then !closed && isAuthorityFrom 0 opened true false cs
    else if c = '@' then cs ≠ [] && isAuthorityFrom 0 opened closed false cs
    else if c = '%' then isAuthorityFrom colons opened closed true cs
    else isHostChar c && isAuthorityFrom colons opened closed escaped cs

/-- Whether the text of a URL is taken for that of a request. Without a host it is read as if
it were one, so that `tel:1` is taken for a host and a port. -/
def isUri (u : Url) : Bool :=
  (Utf8.encode u.toText).length ≤ maxUrl &&
    match u.host? with
    | some h => u.scheme.length ≤ maxScheme && (Url.Host.print h).all isHostChar
    | none => isAuthorityFrom 0 false false false u.toChars

end Liveness.Http
