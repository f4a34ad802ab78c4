import Liveness.Decimal.Shortest

/-! Writing a double: with all its digits in place, or with a power of ten behind it. -/

namespace Liveness.Decimal

/-- Digits without zeros at the end, and the power of ten of the last one. -/
def trimmed (d : Scaled) : List Char × Int :=
  let ds := Nat.toDigits 10 d.digits
  let kept := (ds.reverse.dropWhile (· = '0')).reverse
  (kept, d.exponent + (ds.length - kept.length : Nat))

/-- The power of ten of the first digit. -/
def magnitude (d : Scaled) : Int :=
  let (ds, k) := trimmed d
  k + ds.length - 1

/-- Every digit in its place; a whole number ends in `.0`. -/
def positional (d : Scaled) : List Char :=
  let (ds, k) := trimmed d
  if 0 ≤ k then ds ++ List.replicate k.toNat '0' ++ ['.', '0']
  else
    let places := (-k).toNat
    if ds.length ≤ places then
      '0' :: '.' :: List.replicate (places - ds.length) '0' ++ ds
    else ds.take (ds.length - places) ++ '.' :: ds.drop (ds.length - places)

/-- One digit before the point, and a signed power of ten. -/
def scientific (d : Scaled) : List Char :=
  let (ds, _) := trimmed d
  let fraction := match ds.drop 1 with
    | [] => []
    | fs => '.' :: fs
  let e := magnitude d
  ds.take 1 ++ fraction ++ 'e' :: (if e < 0 then '-' else '+') :: Nat.toDigits 10 e.natAbs

/-- How a format writes doubles: which magnitudes it writes in place, and how it rounds
a tie. -/
structure Notation where
  inPlace : Int → Bool
  tie : Tie

def Notation.write (n : Notation) (x : Float) : String :=
  let bits := x.toBits.toNat % (1 <<< 63)
  let sign := if 1 <<< 63 ≤ x.toBits.toNat then ['-'] else []
  let body :=
    if 0x7FF0000000000000 < bits then ['N', 'a', 'N']
    else if bits = 0x7FF0000000000000 then sign ++ ['i', 'n', 'f']
    else if bits = 0 then sign ++ ['0', '.', '0']
    else
      let d := shortest n.tie bits
      sign ++ if n.inPlace (magnitude d) then positional d else scientific d
  String.ofList body

end Liveness.Decimal
