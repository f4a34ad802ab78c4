/-! Properties of code points, kept as texts of runs. A run is written as the gap
from the start of the run before it, in hexadecimal, and, where the property has
more than two values, `=` and the value. Looking a code point up is a binary
search for the last run that starts at or before it. -/

namespace Liveness.Unicode

def hexDigit? (c : Char) : Option Nat :=
  if c.isDigit then some (c.toNat - '0'.toNat)
  else if 'a' ≤ c && c ≤ 'f' then some (c.toNat - 'a'.toNat + 10)
  else none

/-- The number written in small hexadecimal digits; anything else is passed over. -/
def hexNat (cs : List Char) : Nat :=
  cs.foldl (fun n c => match hexDigit? c with | some d => 16 * n + d | none => n) 0

/-- The parts of a text between the characters that satisfy `p`. -/
def splitAt (p : Char → Bool) : List Char → List (List Char)
  | [] => [[]]
  | c :: cs =>
    if p c then [] :: splitAt p cs
    else match splitAt p cs with
      | [] => [[c]]
      | w :: ws => (c :: w) :: ws

/-- The blank-separated words of a table. -/
def words (s : String) : List (List Char) :=
  (splitAt (fun c => c = ' ' || c = '\n') s.toList).filter (· ≠ [])

/-- Numbers joined by `+`. -/
def hexList (cs : List Char) : List Nat :=
  if cs = [] then [] else (splitAt (· = '+') cs).map hexNat

/-- The running sums of a list of gaps. -/
def sums (start : Nat) : List Nat → List Nat
  | [] => []
  | g :: gs => (start + g) :: sums (start + g) gs

/-- How many of the ascending numbers `xs` are at most `n`, given that those below
index `lo` are and those from `hi` on are not. -/
def rank (xs : Array Nat) (n lo hi : Nat) : Nat :=
  if lo < hi then
    if xs.getD ((lo + hi) / 2) 0 ≤ n then rank xs n ((lo + hi) / 2 + 1) hi
    else rank xs n lo ((lo + hi) / 2)
  else lo
termination_by hi - lo
decreasing_by all_goals omega

/-- A set of code points by the points where membership changes. -/
structure CodePoints where
  bounds : Array Nat

def CodePoints.ofText (s : String) : CodePoints :=
  ⟨(sums 0 ((words s).map hexNat)).toArray⟩

def CodePoints.contains (s : CodePoints) (n : Nat) : Bool :=
  rank s.bounds n 0 s.bounds.size % 2 = 1

/-- A property by the starts of its runs; code points before the first have the
value `before`. -/
structure Runs (α : Type) where
  starts : Array Nat
  values : Array α
  before : α

/-- The code points and values of a table. -/
def entriesOfText {α : Type} (value : List Char → α) (s : String) : List (Nat × α) :=
  let parts := (words s).map (splitAt (· = '='))
  (sums 0 (parts.map fun p => hexNat (p.headD []))).zip
    (parts.map fun p => value ((p.drop 1).headD []))

def Runs.ofText {α : Type} (value : List Char → α) (before : α) (s : String) : Runs α :=
  let entries := entriesOfText value s
  ⟨(entries.map (·.1)).toArray, (entries.map (·.2)).toArray, before⟩

def Runs.get {α : Type} (r : Runs α) (n : Nat) : α :=
  match rank r.starts n 0 r.starts.size with
  | 0 => r.before
  | i + 1 => r.values.getD i r.before

end Liveness.Unicode
