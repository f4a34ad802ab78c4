import Liveness.Unicode.CombiningClass
import Liveness.Unicode.Decomposition

/-! Canonical composition of a text: characters are decomposed, marks sorted by their
combining classes, and what can be composed with its starter is. -/

namespace Liveness.Unicode

namespace Hangul

/-- A syllable is leading consonant, vowel and, for all but one in 28, a trailing one. -/
def syllables : Nat := 0xAC00
def leading : Nat := 0x1100
def vowels : Nat := 0x1161
def trailing : Nat := 0x11A7

def isSyllable (n : Nat) : Bool := syllables ≤ n && n < syllables + 11172

def decompose (n : Nat) : List Nat :=
  let i := n - syllables
  let pair := [leading + i / 588, vowels + i % 588 / 28]
  if i % 28 = 0 then pair else pair ++ [trailing + i % 28]

def compose? (a b : Nat) : Option Nat :=
  if leading ≤ a && a < leading + 19 && vowels ≤ b && b < vowels + 21 then
    some (syllables + ((a - leading) * 21 + (b - vowels)) * 28)
  else if isSyllable a && (a - syllables) % 28 = 0 && trailing < b && b < trailing + 28 then
    some (a + (b - trailing))
  else none

end Hangul

def decompose (c : Char) : List Char :=
  let n := c.toNat
  if n < 0xC0 || isIdeograph c then [c]
  else if Hangul.isSyllable n then (Hangul.decompose n).map Char.ofNat
  else match decompositionTable.get n with
    | [] => [c]
    | ns => ns.map Char.ofNat

/-- The character that two characters compose to. -/
def compose? (a b : Char) : Option Char :=
  if isIdeograph a || isIdeograph b then none
  else match Hangul.compose? a.toNat b.toNat with
    | some n => some (Char.ofNat n)
    | none =>
      (compositeTable.find? fun e => e.2 = [a.toNat, b.toNat]).map fun e => Char.ofNat e.1

/-- Puts a character before others: a mark moves behind the marks of lower class that
follow it. -/
def placeMark (c : Char) : List Char → List Char
  | [] => [c]
  | d :: ds =>
    if 0 < combiningClass d && combiningClass d < combiningClass c then d :: placeMark c ds
    else c :: d :: ds

def sortMarks (cs : List Char) : List Char := cs.foldr placeMark []

/-- Composes what follows the starter `s`; `kept` are the marks, last first, that stay
uncomposed between it and the rest. -/
def composeAfter (s : Char) (kept : List Char) : List Char → List Char
  | [] => s :: kept.reverse
  | c :: cs =>
    let free := match kept with
      | [] => true
      | d :: _ => combiningClass d < combiningClass c
    match if free then compose? s c else none with
    | some p => composeAfter p kept cs
    | none =>
      if combiningClass c = 0 then s :: kept.reverse ++ composeAfter c [] cs
      else composeAfter s (c :: kept) cs

def composeAll : List Char → List Char
  | [] => []
  | c :: cs => if combiningClass c = 0 then composeAfter c [] cs else c :: composeAll cs

/-- The normal form in which everything is composed. ASCII is always in it. -/
def normalize (cs : List Char) : List Char :=
  if cs.all fun c => c.toNat < 0x80 then cs
  else composeAll (sortMarks (cs.flatMap decompose))

end Liveness.Unicode
