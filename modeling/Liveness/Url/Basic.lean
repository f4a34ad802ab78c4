import Liveness.Url.Host.Ipv6

/-! URLs by their parts. Text parts are kept as they are written: mapped, normalised and
percent-encoded. -/

namespace Liveness

namespace Url

inductive Host where
  | domain (name : String)
  | ipv4 (address : UInt32)
  | ipv6 (address : Host.Ipv6)
  deriving DecidableEq

/-- What stands between `//` and the path. -/
structure Authority where
  username : String
  password : Option String
  host : Option Host
  port : Option UInt16
  deriving DecidableEq

/-- A path is a list of segments, each behind a slash, or, where nothing can be relative
to it, any text. -/
inductive Path where
  | segments (names : List String)
  | verbatim (text : String)
  deriving DecidableEq

inductive Error where
  | relativeWithoutBase
  | baseWithoutPath
  | emptyHost
  | invalidPort
  | invalidIpv4
  | invalidIpv6
  | invalidInternationalName
  | invalidDomainCharacter
  deriving DecidableEq, Repr

def Error.message : Error → String
  | .relativeWithoutBase => "relative URL without a base"
  | .baseWithoutPath => "relative URL with a cannot-be-a-base base"
  | .emptyHost => "empty host"
  | .invalidPort => "invalid port number"
  | .invalidIpv4 => "invalid IPv4 address"
  | .invalidIpv6 => "invalid IPv6 address"
  | .invalidInternationalName => "invalid international domain name"
  | .invalidDomainCharacter => "invalid domain character"

/-- Schemes fall into three kinds with rules of their own. -/
inductive Kind where
  | web
  | file
  | general
  deriving DecidableEq, Repr

def Kind.ofScheme (scheme : String) : Kind :=
  if ["http", "https", "ws", "wss", "ftp"].contains scheme then .web
  else if scheme = "file" then .file
  else .general

/-- Whether a backslash counts as a slash. -/
def Kind.isSpecial (k : Kind) : Bool := k ≠ .general

def defaultPort? (scheme : String) : Option UInt16 :=
  if scheme = "http" || scheme = "ws" then some 80
  else if scheme = "https" || scheme = "wss" then some 443
  else if scheme = "ftp" then some 21
  else none

end Url

structure Url where
  scheme : String
  authority : Option Url.Authority
  path : Url.Path
  query : Option String
  fragment : Option String
  deriving DecidableEq

namespace Url

def host? (u : Url) : Option Host := u.authority.bind (·.host)

/-- The port that a connection to the URL goes to. -/
def effectivePort? (u : Url) : Option UInt16 :=
  (u.authority.bind (·.port)).or (defaultPort? u.scheme)

end Url

end Liveness
