import Liveness.Url.Host.Ipv4

/-! Addresses of eight groups. Once, `::` may stand for one or more groups of zeros, and
the last two groups may be written as an address of four bytes. -/

namespace Liveness.Url.Host

structure Ipv6 where
  groups : List UInt16
  length_groups : groups.length = 8
  deriving DecidableEq

namespace Ipv6

/-- What the text of an address is made of. -/
inductive Piece where
  | group (n : Nat)
  | gap
  deriving DecidableEq, Repr

/-- A decimal number below 256 without leading zeros, and the text after it. -/
def byte? (cs : List Char) : Option (Nat × List Char) :=
  let ds := cs.takeWhile Char.isDigit
  match ds with
  | [] => none
  | '0' :: _ :: _ => none
  | _ =>
    match number? 10 ds with
    | some n => if n < 256 then some (n, cs.dropWhile Char.isDigit) else none
    | none => none

/-- Four bytes joined by dots, with nothing after them, as two groups. -/
def embedded? (cs : List Char) : Option (List Piece) :=
  match byte? cs with
  | some (a, '.' :: cs) =>
    match byte? cs with
    | some (b, '.' :: cs) =>
      match byte? cs with
      | some (c, '.' :: cs) =>
        match byte? cs with
        | some (d, []) => some [.group (a * 256 + b), .group (c * 256 + d)]
        | _ => none
      | _ => none
    | _ => none
  | _ => none

def isHex (c : Char) : Bool := (digitValue? c).isSome

/-- Up to four hexadecimal digits, and the text after them. -/
def hexDigits (cs : List Char) : List Char × List Char :=
  let ds := (cs.take 4).takeWhile isHex
  (ds, cs.drop ds.length)

theorem length_hexDigits_snd (cs : List Char) : (hexDigits cs).2.length ≤ cs.length := by
  simp [hexDigits]

/-- The pieces of a text that begins with a piece. -/
def pieces? (cs : List Char) : Option (List Piece) :=
  match cs with
  | [] => some []
  | ':' :: rest => (pieces? rest).map (.gap :: ·)
  | c :: rest =>
    let ds := (hexDigits (c :: rest)).1
    match h : (hexDigits (c :: rest)).2 with
    | [] => (number? 16 ds).map fun n => [.group n]
    | ':' :: after =>
      if after = [] then none
      else
        have : after.length < rest.length + 1 := by
          have := length_hexDigits_snd (c :: rest)
          simp [h] at this
          omega
        match number? 16 ds, pieces? after with
        | some n, some ps => some (.group n :: ps)
        | _, _ => none
    | '.' :: _ => if ds = [] then none else embedded? (c :: rest)
    | _ => none
termination_by cs.length

/-- The eight groups of the pieces. -/
def expand? (ps : List Piece) : Option (List Nat) :=
  let groups := ps.filterMap fun p => match p with
    | .group n => some n
    | .gap => none
  match (ps.filter (· = Piece.gap)).length with
  | 0 => if groups.length = 8 then some groups else none
  | 1 =>
    if groups.length ≤ 7 then
      let before := (ps.takeWhile (· ≠ Piece.gap)).length
      some (groups.take before ++ List.replicate (8 - groups.length) 0 ++ groups.drop before)
    else none
  | _ => none

def ofGroups? (ns : List Nat) : Option Ipv6 :=
  if h : ns.length = 8 then some ⟨ns.map Nat.toUInt16, by simp [h]⟩ else none

/-- The pieces of a whole address: a colon at its start is half of a gap. -/
def allPieces? : List Char → Option (List Piece)
  | [] => none
  | ':' :: ':' :: rest => (pieces? rest).map (.gap :: ·)
  | ':' :: _ => none
  | [_] => none
  | cs => pieces? cs

def parse? (cs : List Char) : Option Ipv6 :=
  ((allPieces? cs).bind expand?).bind ofGroups?

/-- The start and length of the first longest run of zeros from index `i` on. -/
def longestZeros (i : Nat) (ns : List UInt16) : Nat × Nat :=
  match ns with
  | [] => (i, 0)
  | n :: ns =>
    let here := ((n :: ns).takeWhile (· = 0)).length
    let later := longestZeros (i + 1) ns
    if later.2 ≤ here then (i, here) else later

def printGroups (ns : List UInt16) : List Char :=
  joinWith ':' (ns.map fun n => Nat.toDigits 16 n.toNat)

/-- Two or more zeros in a row are written as `::`, at the first of the longest runs. -/
def print (a : Ipv6) : List Char :=
  let (start, length) := longestZeros 0 a.groups
  if length < 2 then printGroups a.groups
  else
    printGroups (a.groups.take start) ++ ':' :: ':' ::
      printGroups (a.groups.drop (start + length))

end Ipv6

end Liveness.Url.Host
