import Liveness.Url.Basic

/-! The text of a URL. -/

namespace Liveness.Url

def Host.print : Host → List Char
  | .domain name => name.toList
  | .ipv4 a => Host.Ipv4.print a
  | .ipv6 a => '[' :: a.print ++ [']']

/-- Name and password, with the `@` that ends them, if there is either. -/
def Authority.printUserinfo (a : Authority) : List Char :=
  match a.password with
  | none => if a.username = "" then [] else a.username.toList ++ ['@']
  | some p => a.username.toList ++ ':' :: p.toList ++ ['@']

def Authority.printPort (a : Authority) : List Char :=
  match a.port with
  | none => []
  | some p => ':' :: Nat.toDigits 10 p.toNat

def Authority.print (a : Authority) : List Char :=
  a.printUserinfo ++ (a.host.map Host.print).getD [] ++ a.printPort

def Path.print : Path → List Char
  | .segments names => names.flatMap fun n => '/' :: n.toList
  | .verbatim text => text.toList

/-- Without an authority, `/.` keeps a path that begins with two slashes from being
taken for one. -/
def printBeforeQuery (u : Url) : List Char :=
  match u.authority, u.path with
  | some a, p => '/' :: '/' :: a.print ++ p.print
  | none, .segments ("" :: n :: ns) => '/' :: '.' :: Path.print (.segments ("" :: n :: ns))
  | none, p => p.print

def printQuery (u : Url) : List Char :=
  match u.query with
  | none => []
  | some q => '?' :: q.toList

def printFragment (u : Url) : List Char :=
  match u.fragment with
  | none => []
  | some f => '#' :: f.toList

def toChars (u : Url) : List Char :=
  u.scheme.toList ++ ':' :: u.printBeforeQuery ++ u.printQuery ++ u.printFragment

def toText (u : Url) : String := String.ofList u.toChars

end Liveness.Url
