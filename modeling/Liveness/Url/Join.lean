import Liveness.Url.Parser

/-! References: a text that is read relative to a URL. What the text leaves out, from the
front, is taken from the URL. The URL is no file. -/

namespace Liveness.Url

def Path.above : Path → List (List Char)
  | .segments names => (names.dropLast.map String.toList).reverse
  | .verbatim _ => []

/-- A text with neither scheme nor authority. -/
def joinPath (base : Url) (k : Kind) (cs : List Char) : Url :=
  let built (path : List Char → Path) : Url := build base.scheme k base.authority path cs
  match cs with
  | [] => { base with fragment := none }
  | '#' :: f => { base with fragment := some (encodedFragment f) }
  | '?' :: _ => built fun _ => base.path
  | c :: _ =>
    if c = '/' ∨ c = '\\' then built fun p => pathOf k [] p.tail
    else built fun p => pathOf k base.path.above p

/-- A text without scheme; two slashes, of either kind, stand before an authority. -/
def joinRelative (base : Url) (k : Kind) (cs : List Char) : Except Error Url :=
  match cs with
  | '/' :: '/' :: rest => afterSlashes base.scheme k rest
  | a :: b :: rest =>
    if (a = '/' ∨ a = '\\') ∧ (b = '/' ∨ b = '\\') then
      afterSlashes base.scheme k (rest.dropWhile fun c => c = '/' || c = '\\')
    else .ok (joinPath base k (a :: b :: rest))
  | cs => .ok (joinPath base k cs)

/-- Whether a text begins with fewer than two slashes. -/
def hasNoAuthority (cs : List Char) : Bool := (cs.takeWhile (isSlash .web)).length < 2

def join (base : Url) (s : String) : Except Error Url :=
  let cs := clean s
  let k := Kind.ofScheme base.scheme
  match scheme? cs with
  | some (scheme, rest) =>
    if k = .web ∧ scheme = base.scheme ∧ hasNoAuthority rest then joinRelative base k rest
    else withScheme scheme rest
  | none =>
    match base.path, cs with
    | _, '#' :: f => .ok { base with fragment := some (encodedFragment f) }
    | .verbatim _, _ => .error .baseWithoutPath
    | .segments _, cs => joinRelative base k cs

end Liveness.Url
