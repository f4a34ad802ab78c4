/-! Punycode: a text as small letters and digits. The ASCII characters come first, then
a hyphen, then the other characters in ascending order, each as the distance from the
one before it, in digits whose weights adapt to the sizes seen so far. -/

namespace Liveness.Url.Host.Punycode

def digitChar (d : Nat) : Char :=
  if d < 26 then Char.ofNat (0x61 + d) else Char.ofNat (0x30 + (d - 26))

def digitValue? (c : Char) : Option Nat :=
  let n := c.toNat
  if 0x61 ≤ n && n ≤ 0x7A then some (n - 0x61)
  else if 0x41 ≤ n && n ≤ 0x5A then some (n - 0x41)
  else if 0x30 ≤ n && n ≤ 0x39 then some (n - 0x30 + 26)
  else none

/-- The least value that a digit must have to be followed by another one. -/
def threshold (k bias : Nat) : Nat :=
  if k ≤ bias then 1 else if bias + 26 ≤ k then 26 else k - bias

theorem threshold_bounds (k bias : Nat) : 1 ≤ threshold k bias ∧ threshold k bias ≤ 26 := by
  unfold threshold
  split
  · omega
  · split <;> omega

def firstBias : Nat := 72

def firstPoint : Nat := 0x80

def scaleDown (delta k : Nat) : Nat :=
  if 455 < delta then scaleDown (delta / 35) (k + 36) else k + 36 * delta / (delta + 38)
termination_by delta
decreasing_by exact Nat.div_lt_self (by omega) (by omega)

/-- The bias after a distance was written for the `count`th character. -/
def adapt (delta count : Nat) (first : Bool) : Nat :=
  let d := if first then delta / 700 else delta / 2
  scaleDown (d + d / count) 0

/-- A number in digits of varying weight. -/
def encodeNumber (bias k n : Nat) : List Char :=
  if n < threshold k bias then [digitChar n]
  else
    digitChar (threshold k bias + (n - threshold k bias) % (36 - threshold k bias)) ::
      encodeNumber bias (k + 36) ((n - threshold k bias) / (36 - threshold k bias))
termination_by n
decreasing_by
  have h := threshold_bounds k bias
  exact Nat.lt_of_le_of_lt (Nat.div_le_self _ _) (by omega)

structure Progress where
  written : List Char
  delta : Nat
  bias : Nat
  count : Nat

/-- Looks at one character of the text while the code point `m` is being placed. -/
def Progress.visit (basic m : Nat) (p : Progress) (c : Char) : Progress :=
  if c.toNat < m then { p with delta := p.delta + 1 }
  else if c.toNat = m then
    ⟨p.written ++ encodeNumber p.bias 36 p.delta, 0,
      adapt p.delta (p.count + 1) (p.count = basic), p.count + 1⟩
  else p

def insertPoint (n : Nat) : List Nat → List Nat
  | [] => [n]
  | m :: ms => if n < m then n :: m :: ms else if n = m then m :: ms else m :: insertPoint n ms

/-- The code points of a text from `firstPoint` on, ascending, each once. -/
def points (cs : List Char) : List Nat :=
  cs.foldr (fun c ns => if c.toNat < firstPoint then ns else insertPoint c.toNat ns) []

def place (cs : List Char) (basic : Nat) : List Nat → Nat → Progress → Progress
  | [], _, p => p
  | m :: ms, n, p =>
    let p := { p with delta := p.delta + (m - n) * (p.count + 1) }
    let p := cs.foldl (Progress.visit basic m) p
    place cs basic ms (m + 1) { p with delta := p.delta + 1 }

def encode (cs : List Char) : List Char :=
  let basic := cs.filter fun c => c.toNat < firstPoint
  let start := if basic = [] then [] else basic ++ ['-']
  (place cs basic.length (points cs) firstPoint ⟨start, 0, firstBias, basic.length⟩).written

/-- Reads the numbers and places a character for each. `point` is the last code point
placed, `i` the place reached when this number began, `value` and `weight` what its
digits have given so far. -/
def decodeNumbers : List Char → (point i value weight k bias : Nat) → List Char →
    Option (List Char)
  | [], _, _, _, weight, _, _, out => if weight = 1 then some out else none
  | c :: cs, point, i, value, weight, k, bias, out =>
    match digitValue? c with
    | none => none
    | some d =>
      let value := value + d * weight
      let t := threshold k bias
      if d < t then
        let size := out.length + 1
        let point := point + (i + value) / size
        let spot := (i + value) % size
        if point.isValidChar then
          decodeNumbers cs point (spot + 1) 0 1 36 (adapt value size (i = 0))
            (out.take spot ++ Char.ofNat point :: out.drop spot)
        else none
      else decodeNumbers cs point i value (weight * (36 - t)) (k + 36) bias out

/-- The text before the last hyphen, unless that comes first, and the text after it. -/
def cut (cs : List Char) : List Char × List Char :=
  let after := (cs.reverse.takeWhile (· ≠ '-')).reverse
  if after.length + 1 < cs.length then (cs.take (cs.length - after.length - 1), after)
  else ([], cs)

def decode? (cs : List Char) : Option (List Char) :=
  let (basic, numbers) := cut cs
  if basic.all fun c => c.toNat < firstPoint then
    decodeNumbers numbers firstPoint 0 0 1 36 firstBias basic
  else none

end Liveness.Url.Host.Punycode
