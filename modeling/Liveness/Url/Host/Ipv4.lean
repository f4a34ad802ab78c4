import Liveness.Url.Host.Domain

/-! Addresses of four bytes. A name whose last part is a number is such an address: one
to four numbers, decimal, octal or hexadecimal, of which the last fills what is left. -/

namespace Liveness.Url.Host

def digitValue? (c : Char) : Option Nat :=
  if c.isDigit then some (c.toNat - 0x30)
  else if 'a' ≤ c && c ≤ 'f' then some (c.toNat - 0x61 + 10)
  else if 'A' ≤ c && c ≤ 'F' then some (c.toNat - 0x41 + 10)
  else none

/-- The number that digits of a base denote; no digits denote zero. -/
def number? (base : Nat) (cs : List Char) : Option Nat :=
  cs.foldlM (fun n c => (digitValue? c).bind fun d =>
    if d < base then some (base * n + d) else none) 0

namespace Ipv4

/-- A part of an address: `0x` announces base sixteen, another leading zero base eight. -/
def part? : List Char → Option Nat
  | [] => none
  | '0' :: 'x' :: cs => number? 16 cs
  | '0' :: 'X' :: cs => number? 16 cs
  | '0' :: c :: cs => number? 8 (c :: cs)
  | cs => number? 10 cs

/-- The parts of a name; a dot at its end opens no further part. -/
def parts (name : List Char) : List (List Char) :=
  let ps := splitOn '.' name
  if ps.getLast? = some [] then ps.dropLast else ps

/-- Whether a name can only be an address. -/
def endsInNumber (name : List Char) : Bool :=
  match (parts name).getLast? with
  | none => false
  | some last => (last ≠ [] && last.all Char.isDigit) || (part? last).isSome

/-- The address of the numbers of its parts. -/
def ofNumbers? : List Nat → Option Nat
  | [] => none
  | [n] => if n < UInt32.size then some n else none
  | [a, n] => if a < 256 && n < 1 <<< 24 then some (a <<< 24 + n) else none
  | [a, b, n] =>
    if a < 256 && b < 256 && n < 1 <<< 16 then some (a <<< 24 + b <<< 16 + n) else none
  | [a, b, c, n] =>
    if a < 256 && b < 256 && c < 256 && n < 1 <<< 8 then
      some (a <<< 24 + b <<< 16 + c <<< 8 + n)
    else none
  | _ => none

def parse? (name : List Char) : Option UInt32 :=
  ((parts name).mapM part?).bind fun ns => (ofNumbers? ns).map Nat.toUInt32

def print (a : UInt32) : List Char :=
  let n := a.toNat
  joinWith '.' ([n >>> 24, n >>> 16 % 256, n >>> 8 % 256, n % 256].map (Nat.toDigits 10))

end Ipv4

end Liveness.Url.Host
