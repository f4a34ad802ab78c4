/-! The shortest decimal that reads back as a given double. Decimals with one digit,
two digits and so on are tried; of each kind the two neighbours of the double are the
only ones that can read back, and of two that do the nearer is taken. All arithmetic is
on natural numbers. -/

namespace Liveness.Decimal

/-- A positive double as a quotient. The numbers that read back as it lie between
`below / den` and `above / den`, the ends included if `closed`. -/
structure Interval where
  num : Nat
  den : Nat
  below : Nat
  above : Nat
  closed : Bool

/-- The interval of `m * 2 ^ (e - 1074)`; the step below a power of two is half as long,
except below the smallest one. -/
def Interval.ofBinary (m e : Nat) : Interval :=
  let scale := 1 <<< e
  let narrow := m = 1 <<< 52 && 0 < e
  { num := 4 * m * scale
    den := 4 * (1 <<< 1074)
    below := (4 * m - if narrow then 1 else 2) * scale
    above := (4 * m + 2) * scale
    closed := m % 2 = 0 }

def Interval.ofBits (bits : Nat) : Interval :=
  let exponent := bits / (1 <<< 52) % 2048
  let fraction := bits % (1 <<< 52)
  if exponent = 0 then .ofBinary fraction 0 else .ofBinary ((1 <<< 52) + fraction) (exponent - 1)

/-- Whether `c * 10 ^ up / 10 ^ down` reads back. -/
def Interval.holds (i : Interval) (c up down : Nat) : Bool :=
  let x := c * Nat.pow 10 up * i.den
  if i.closed then i.below * Nat.pow 10 down ≤ x && x ≤ i.above * Nat.pow 10 down
  else i.below * Nat.pow 10 down < x && x < i.above * Nat.pow 10 down

/-- How many times ten has to be multiplied in for a fraction to reach one. -/
def leadingZeros (num den : Nat) : Nat :=
  if h : 0 < num ∧ num < den then leadingZeros (10 * num) den + 1 else 0
termination_by den - num
decreasing_by omega

def digitCount (n : Nat) : Nat := (Nat.toDigits 10 n).length

/-- A decimal `digits * 10 ^ exponent`. -/
structure Scaled where
  digits : Nat
  exponent : Int
  deriving DecidableEq, Repr

/-- What to do with a double midway between two decimals. -/
inductive Tie where
  | toEven
  | up
  deriving DecidableEq, Repr

/-- The neighbours with `n` digits, where the first digit stands at `10 ^ top`; the
nearer one that reads back. -/
def atLength (i : Interval) (tie : Tie) (top : Int) (n : Nat) : Option Scaled :=
  let k := top - (n - 1 : Nat)
  let up := k.toNat
  let down := (-k).toNat
  let low := i.num * Nat.pow 10 down / (i.den * Nat.pow 10 up)
  let rest := i.num * Nat.pow 10 down % (i.den * Nat.pow 10 up)
  let lowHolds := i.holds low up down
  let highHolds := i.holds (low + 1) up down
  let highNearer := i.den * Nat.pow 10 up < 2 * rest ||
    (i.den * Nat.pow 10 up = 2 * rest && (tie = .up || low % 2 = 1))
  if lowHolds && highHolds then some ⟨if highNearer then low + 1 else low, k⟩
  else if lowHolds then some ⟨low, k⟩
  else if highHolds then some ⟨low + 1, k⟩
  else none

/-- The shortest decimal for a positive finite double, given by its bits. -/
def shortest (tie : Tie) (bits : Nat) : Scaled :=
  let i := Interval.ofBits bits
  let top : Int :=
    if i.num < i.den then -(leadingZeros i.num i.den : Int)
    else (digitCount (i.num / i.den) : Int) - 1
  ((List.range 17).findSome? fun n => atLength i tie top (n + 1)).getD ⟨0, 0⟩

end Liveness.Decimal
