import Liveness.Url.Basic
import Liveness.Url.Percent

/-! Reading a URL. Blanks and controls around the text and tabs and line ends within are
dropped; then come the scheme, the authority, the path, the query and the fragment, each
ended by the first character that it cannot hold. -/

namespace Liveness.Url

open Text

def isBlank (c : Char) : Bool := c.toNat ≤ 0x20

/-- The text that counts. -/
def clean (s : String) : List Char :=
  let cs := ((s.toList.dropWhile isBlank).reverse.dropWhile isBlank).reverse
  cs.filter fun c => c ≠ '\t' && c ≠ '\n' && c ≠ '\r'

def isSchemeChar (c : Char) : Bool := c.isAlphanum || c = '+' || c = '-' || c = '.'

/-- A scheme in small letters, and what follows its colon. -/
def scheme? (cs : List Char) : Option (String × List Char) :=
  match cs.dropWhile isSchemeChar with
  | ':' :: rest =>
    if cs.head?.any Char.isAlpha then
      some (String.ofList ((cs.takeWhile isSchemeChar).map Char.toLower), rest)
    else none
  | _ => none

def isSlash (k : Kind) (c : Char) : Bool := c = '/' || (c = '\\' && k.isSpecial)

/-- The text up to a `?` or `#`, the query and the fragment as they are given. -/
structure Tail where
  path : List Char
  query : Option (List Char)
  fragment : Option (List Char)

def Tail.ofText (cs : List Char) : Tail :=
  let before := cs.takeWhile (· ≠ '#')
  { path := before.takeWhile (· ≠ '?')
    query := match before.dropWhile (· ≠ '?') with
      | [] => none
      | _ :: q => some q
    fragment := match cs.dropWhile (· ≠ '#') with
      | [] => none
      | _ :: f => some f }

def encodedQuery (k : Kind) (q : List Char) : String :=
  String.ofList (Percent.encode (if k.isSpecial then Percent.webQuery else Percent.query) q)

def encodedFragment (f : List Char) : String := String.ofList (Percent.encode Percent.fragment f)

/-- The parts of a path between slashes. -/
def splitPath (k : Kind) : List Char → List (List Char)
  | [] => [[]]
  | c :: cs =>
    match splitPath k cs with
    | [] => [[c]]
    | p :: ps => if isSlash k c then [] :: p :: ps else (c :: p) :: ps

/-- A dot may be written as an escape. -/
def dots : List Char → Option Nat
  | [] => some 0
  | '.' :: cs => (dots cs).map (· + 1)
  | '%' :: '2' :: e :: cs => if e = 'e' || e = 'E' then (dots cs).map (· + 1) else none
  | _ => none

def isStay (segment : List Char) : Bool := dots segment = some 1

def isUp (segment : List Char) : Bool := dots segment = some 2

/-- Two characters that name a drive. -/
def isDrive : List Char → Bool
  | [a, b] => a.isAlpha && (b = ':' || b = '|')
  | _ => false

/-- Whether a segment names a drive, alone or before a backslash; going up stops there. -/
def holdsDrive : List Char → Bool
  | [a, b] => isDrive [a, b]
  | a :: b :: '\\' :: _ => isDrive [a, b]
  | _ => false

/-- Going up from a list of segments, the last one first. -/
def goUp : List (List Char) → List (List Char)
  | [] => []
  | s :: ss => if holdsDrive s then s :: ss else ss

/-- A drive at the start of the path of a file is written with a colon. -/
def driveWithColon (k : Kind) (above : List (List Char)) (segment : List Char) : List Char :=
  match segment with
  | [a, _] => if k = .file && above = [] && isDrive segment then [a, ':'] else segment
  | _ => segment

/-- The segments that a list of given ones leads to, after `above` (last one first). -/
def resolve (k : Kind) (above : List (List Char)) : List (List Char) → List (List Char)
  | [] => above.reverse
  | [s] =>
    if isUp s then ([] :: goUp above).reverse
    else if isStay s then ([] :: above).reverse
    else (driveWithColon k above (Percent.encode Percent.path s) :: above).reverse
  | s :: ss =>
    if isUp s then resolve k (goUp above) ss
    else if isStay s then resolve k above ss
    else resolve k (driveWithColon k above (Percent.encode Percent.path s) :: above) ss

/-- A file's path does not begin with empty segments. -/
def dropEmpty (k : Kind) (ss : List (List Char)) : List (List Char) :=
  if k = .file then
    match ss.dropWhile (· = []) with
    | [] => [[]]
    | ss => ss
  else ss

/-- The path of a text after its first slash. -/
def pathOf (k : Kind) (above : List (List Char)) (cs : List Char) : Path :=
  .segments ((dropEmpty k (resolve k above (splitPath k cs))).map String.ofList)

/-- The path behind an authority: only a URL of the general kind may have none. -/
def pathAfterAuthority (k : Kind) (cs : List Char) : Path :=
  match cs with
  | [] => if k = .general then .segments [] else pathOf k [] []
  | c :: rest => if isSlash k c then pathOf k [] rest else pathOf k [] (c :: rest)

/-- The part of a text before the last `@`, and what follows it. -/
def userinfoSplit (cs : List Char) : Option (List Char × List Char) :=
  let after := (cs.reverse.takeWhile (· ≠ '@')).reverse
  if after.length < cs.length then some (cs.take (cs.length - after.length - 1), after) else none

/-- The host's text, which ends at a colon outside brackets, and what follows it. -/
def hostSplit (bracketed : Bool) : List Char → List Char × List Char
  | [] => ([], [])
  | c :: cs =>
    if c = ':' && !bracketed then ([], c :: cs)
    else
      let bracketed := if c = '[' then true else if c = ']' then false else bracketed
      let (host, rest) := hostSplit bracketed cs
      (c :: host, rest)

/-- An address in brackets. -/
def bracketedHost (cs : List Char) : Except Error Host :=
  if cs.getLast? = some ']' then
    match Host.Ipv6.parse? cs.dropLast with
    | some a => .ok (.ipv6 a)
    | none => .error .invalidIpv6
  else .error .invalidIpv6

/-- The host of a URL of the general kind: any text without characters that end it. -/
def generalHost (cs : List Char) : Except Error (Option Host) :=
  match cs with
  | [] => .ok none
  | '[' :: rest => (bracketedHost rest).map some
  | _ =>
    if cs.any fun c => ['\x00', '\t', '\n', '\r', ' ', '#', '/', ':', '<', '>', '?', '@', '[',
        '\\', ']', '^', '|'].contains c then
      .error .invalidDomainCharacter
    else .ok (some (.domain (String.ofList (Percent.encode Percent.verbatim cs))))

/-- The host that a text names, be it a domain name or an address. -/
def namedHost (cs : List Char) : Except Error Host :=
  match cs with
  | '[' :: rest => bracketedHost rest
  | _ =>
    match (Utf8.decode? (Percent.decode cs)).bind fun s => Host.domainToAscii? s.toList with
    | none => .error .invalidInternationalName
    | some [] => .error .emptyHost
    | some name =>
      if Host.Ipv4.endsInNumber name then
        match Host.Ipv4.parse? name with
        | some a => .ok (.ipv4 a)
        | none => .error .invalidIpv4
      else .ok (.domain (String.ofList name))

def readHost (k : Kind) (cs : List Char) : Except Error (Option Host) :=
  if k = .general then generalHost cs
  else if cs = [] then .error .emptyHost
  else (namedHost cs).map some

/-- A port after a colon, if any is given and it is not the usual one, and what follows
it: a backslash ends it under every scheme. -/
def readPort (scheme : String) (cs : List Char) : Except Error (Option UInt16 × List Char) :=
  match cs with
  | ':' :: cs =>
    let digits := cs.takeWhile Char.isDigit
    let rest := cs.dropWhile Char.isDigit
    match Host.number? 10 digits with
    | none => .error .invalidPort
    | some n =>
      if 65535 < n then .error .invalidPort
      else if rest ≠ [] && rest.head? ≠ some '\\' then .error .invalidPort
      else if digits = [] || some n.toUInt16 = defaultPort? scheme then .ok (none, rest)
      else .ok (some n.toUInt16, rest)
  | _ => .ok (none, cs)

def username (cs : List Char) : String :=
  String.ofList (Percent.encode Percent.userinfo (cs.takeWhile (· ≠ ':')))

def password? (cs : List Char) : Option String :=
  match cs.dropWhile (· ≠ ':') with
  | _ :: c :: cs => some (String.ofList (Percent.encode Percent.userinfo (c :: cs)))
  | _ => none

/-- Whether a character ends an authority. -/
def endsAuthority (k : Kind) (c : Char) : Bool := isSlash k c || c = '?' || c = '#'

/-- An authority, and the text after it. -/
def readAuthority (scheme : String) (k : Kind) (cs : List Char) :
    Except Error (Authority × List Char) := do
  let text := cs.takeWhile fun c => !endsAuthority k c
  let rest := cs.dropWhile fun c => !endsAuthority k c
  let (userinfo, location) := (userinfoSplit text).getD ([], text)
  if (userinfoSplit text).isSome && userinfo = [] && location = [] && rest ≠ [] then
    throw .emptyHost
  let (hostText, afterHost) := hostSplit false location
  let host ← readHost k hostText
  if host = none && afterHost.head? = some ':' then throw .emptyHost
  let (port, afterPort) ← readPort scheme afterHost
  let name := username userinfo
  let password := password? userinfo
  if host = none && (name ≠ "" || password.isSome) then throw .emptyHost
  return (⟨name, password, host, port⟩, afterPort ++ rest)

/-- Puts a URL together from what its tail gives. -/
def build (scheme : String) (k : Kind) (authority : Option Authority)
    (path : List Char → Path) (rest : List Char) : Url :=
  let tail := Tail.ofText rest
  ⟨scheme, authority, path tail.path, tail.query.map (encodedQuery k),
    tail.fragment.map encodedFragment⟩

/-- What follows the two slashes of a URL that is no file. -/
def afterSlashes (scheme : String) (k : Kind) (cs : List Char) : Except Error Url := do
  let (a, rest) ← readAuthority scheme k cs
  return build scheme k (some a) (pathAfterAuthority k) rest

def noAuthority : Authority := ⟨"", none, none, none⟩

/-- The host of a file, unless the text is a drive; this machine's own name counts as
none. -/
def fileHost (cs : List Char) : Except Error (Option Host × List Char) :=
  let text := cs.takeWhile fun c => !endsAuthority .file c
  let rest := cs.dropWhile fun c => !endsAuthority .file c
  if isDrive text then .ok (none, cs)
  else if text = [] then .ok (none, rest)
  else (namedHost text).map fun h => (if h = .domain "localhost" then none else some h, rest)

/-- Whether the path of a file begins with a drive; a host before it is dropped. -/
def beginsWithDrive (k : Kind) (cs : List Char) : Bool :=
  match resolve k [] (splitPath k cs) with
  | s :: _ => isDrive s
  | [] => false

def fileUrl (scheme : String) (cs : List Char) : Except Error Url :=
  match cs with
  | a :: b :: rest =>
    if isSlash .file a && isSlash .file b then do
      let (host, rest) ← fileHost rest
      let path := (Tail.ofText rest).path
      let relative := match path with
        | c :: p => if isSlash .file c then p else c :: p
        | [] => []
      let host := if beginsWithDrive .file relative then none else host
      return build scheme .file (some { noAuthority with host }) (pathAfterAuthority .file) rest
    else .ok (build scheme .file (some noAuthority) (pathAfterAuthority .file) (a :: b :: rest))
  | cs => .ok (build scheme .file (some noAuthority) (pathAfterAuthority .file) cs)

def generalUrl (scheme : String) (cs : List Char) : Except Error Url :=
  match cs with
  | '/' :: '/' :: rest => afterSlashes scheme .general rest
  | '/' :: rest => .ok (build scheme .general none (pathOf .general []) rest)
  | cs =>
    .ok (build scheme .general none
      (fun p => .verbatim (String.ofList (Percent.encode Percent.verbatim p))) cs)

def withScheme (scheme : String) (rest : List Char) : Except Error Url :=
  match Kind.ofScheme scheme with
  | .web => afterSlashes scheme .web (rest.dropWhile (isSlash .web))
  | .file => fileUrl scheme rest
  | .general => generalUrl scheme rest

def parse (s : String) : Except Error Url :=
  match scheme? (clean s) with
  | none => .error .relativeWithoutBase
  | some (scheme, rest) => withScheme scheme rest

end Liveness.Url
