import Liveness.Json.Error

/-! Reading a number. A whole number that fits is kept as it is; any other becomes a
double: its first digits, as many as fit a word, times or divided by a power of ten. -/

namespace Liveness.Json

def maxWord : Nat := UInt64.size - 1

def maxExponent : Nat := 1 <<< 31 - 1

/-- A number as it is written. -/
structure Numeral where
  negative : Bool
  whole : List Char
  fraction : List Char
  exponent : Option Int

def digitValue (c : Char) : Nat := c.toNat - '0'.toNat

/-- Appends digits to a word as long as they fit, and says how many did. -/
def appendDigits (n used : Nat) : List Char → Nat × Nat
  | [] => (n, used)
  | d :: ds =>
    if 10 * n + digitValue d ≤ maxWord then appendDigits (10 * n + digitValue d) (used + 1) ds
    else (n, used)

/-- A double times ten to a power, unless it is too large. -/
def scaleFloat (x : Float) (e : Int) : Option Float :=
  if h : e.natAbs ≤ 308 then
    if 0 ≤ e then
      let y := x * Float.ofScientific 1 false e.natAbs
      if y.isInf then none else some y
    else some (x / Float.ofScientific 1 false e.natAbs)
  else if x == 0 then some x
  else if 0 ≤ e then none
  else scaleFloat (x / 1e308) (e + 308)
termination_by e.natAbs
decreasing_by omega

/-- The double that a numeral stands for, unless it is too large. -/
def Numeral.toFloat? (n : Numeral) : Option Float :=
  let (s, used) := appendDigits 0 0 n.whole
  let (s, usedAfter) := appendDigits s 0 n.fraction
  let start : Int := (n.whole.length - used : Nat) - usedAfter
  (scaleFloat s.toUInt64.toFloat (start + n.exponent.getD 0)).map fun x =>
    if n.negative then -x else x

/-- What a numeral without fraction and exponent stands for, if it is a word or the
negative of one. -/
def Numeral.toInteger? (n : Numeral) : Option Found :=
  let (s, used) := appendDigits 0 0 n.whole
  if n.fraction ≠ [] || n.exponent.isSome || used < n.whole.length then none
  else if !n.negative then some (.natural s)
  else if 0 < s && s ≤ 1 <<< 63 then some (.negative s)
  else none

def spanDigits (cs : List Char) : List Char × List Char :=
  (cs.takeWhile Char.isDigit, cs.dropWhile Char.isDigit)

/-- Reads the digits of an exponent, and stops behind one that makes it too large. -/
def exponentDigits (n : Nat) : List Char → Option Nat × List Char
  | [] => (some n, [])
  | c :: cs =>
    if c.isDigit then
      if maxExponent < 10 * n + digitValue c then (none, cs)
      else exponentDigits (10 * n + digitValue c) cs
    else (some n, c :: cs)

/-- The value of a numeral, or an error in front of the rest. -/
def finish (n : Numeral) (rest : List Char) : Except Error (Found × List Char) :=
  match n.toInteger? with
  | some v => .ok (v, rest)
  | none =>
    match n.toFloat? with
    | some x => .ok (.float x, rest)
    | none => .error (.before .numberOutOfRange rest)

/-- A text without the sign at its start. -/
def afterSign : List Char → List Char
  | '+' :: r => r
  | '-' :: r => r
  | r => r

/-- The part of a number after `e`. -/
def readExponent (n : Numeral) (cs : List Char) : Except Error (Found × List Char) :=
  let minus := cs.head? = some '-'
  match afterSign cs with
  | [] => .error (.before .eofInValue [])
  | c :: r =>
    if c.isDigit then
      match exponentDigits 0 (c :: r) with
      | (some e, rest) => finish { n with exponent := some (if minus then -e else e) } rest
      | (none, rest) =>
        let (s, _) := appendDigits 0 0 (n.whole ++ n.fraction)
        if s ≠ 0 && !minus then .error (.before .numberOutOfRange rest)
        else .ok (.float (if n.negative then -0.0 else 0.0), (spanDigits rest).2)
    else .error (.on .invalidNumber (c :: r))

def startsExponent (cs : List Char) : Bool := cs.head? = some 'e' || cs.head? = some 'E'

/-- The part of a number after its whole digits. -/
def readAfterWhole (negative : Bool) (whole cs : List Char) :
    Except Error (Found × List Char) :=
  match cs with
  | '.' :: r =>
    let (fraction, rest) := spanDigits r
    if fraction = [] then
      .error (.on (if rest = [] then .eofInValue else .invalidNumber) rest)
    else
      let n := ⟨negative, whole, fraction, none⟩
      if startsExponent rest then readExponent n rest.tail else finish n rest
  | cs =>
    let n := ⟨negative, whole, [], none⟩
    if startsExponent cs then readExponent n cs.tail else finish n cs

/-- A number after its sign. A zero at the start stands alone. -/
def readNumber (negative : Bool) (cs : List Char) : Except Error (Found × List Char) :=
  match cs with
  | [] => .error (.before .eofInValue [])
  | c :: r =>
    if c = '0' then
      if r.head?.any Char.isDigit then .error (.on .invalidNumber r)
      else readAfterWhole negative ['0'] r
    else if c.isDigit then
      let (whole, rest) := spanDigits (c :: r)
      readAfterWhole negative whole rest
    else .error (.on .invalidNumber (c :: r))

def skipExponent (cs : List Char) : Except Error (List Char) :=
  if (afterSign cs).head?.any Char.isDigit then .ok (spanDigits (afterSign cs)).2
  else .error (.on .invalidNumber (afterSign cs))

def skipAfterWhole (cs : List Char) : Except Error (List Char) :=
  match cs with
  | '.' :: r =>
    let (fraction, rest) := spanDigits r
    if fraction = [] then .error (.on .invalidNumber rest)
    else if startsExponent rest then skipExponent rest.tail
    else .ok rest
  | cs => if startsExponent cs then skipExponent cs.tail else .ok cs

def skipNumber (cs : List Char) : Except Error (List Char) :=
  match cs with
  | [] => .error (.before .invalidNumber [])
  | c :: r =>
    if c = '0' then
      if r.head?.any Char.isDigit then .error (.on .invalidNumber r) else skipAfterWhole r
    else if c.isDigit then skipAfterWhole (spanDigits r).2
    else .error (.on .invalidNumber (c :: r))

theorem length_dropWhile_le {p : Char → Bool} (cs : List Char) :
    (cs.dropWhile p).length ≤ cs.length :=
  (List.dropWhile_suffix p).length_le

theorem length_exponentDigits_snd (n : Nat) (cs : List Char) :
    (exponentDigits n cs).2.length ≤ cs.length := by
  induction cs generalizing n with
  | nil => simp [exponentDigits]
  | cons c cs ih =>
    rw [exponentDigits]
    split
    · split
      · simp
      · have := ih (10 * n + digitValue c)
        simp
        omega
    · simp

theorem finish_rest {n : Numeral} {cs rest : List Char} {v : Found}
    (h : finish n cs = .ok (v, rest)) : rest = cs := by
  unfold finish at h
  split at h
  · simp_all
  · split at h <;> simp_all

theorem length_afterSign (cs : List Char) : (afterSign cs).length ≤ cs.length := by
  unfold afterSign
  split <;> simp

theorem length_readExponent {n : Numeral} {cs rest : List Char} {v : Found}
    (h : readExponent n cs = .ok (v, rest)) : rest.length ≤ cs.length := by
  unfold readExponent at h
  have hs := length_afterSign cs
  simp only at h
  split at h
  · simp at h
  · next c r heq =>
    rw [heq] at hs
    split at h
    · have he := length_exponentDigits_snd 0 (c :: r)
      split at h
      · next rest' heq' =>
        rw [heq'] at he
        rw [finish_rest h]
        exact Nat.le_trans he hs
      · next rest' heq' =>
        rw [heq'] at he
        have hd : (spanDigits rest').2.length ≤ rest'.length := length_dropWhile_le rest'
        split at h
        · simp at h
        · injection h with h
          injection h with _ h
          subst h
          exact Nat.le_trans hd (Nat.le_trans he hs)
    · simp at h

theorem length_readAfterWhole {negative : Bool} {whole cs rest : List Char} {v : Found}
    (h : readAfterWhole negative whole cs = .ok (v, rest)) : rest.length ≤ cs.length := by
  unfold readAfterWhole at h
  split at h
  · next r =>
    have hr : (spanDigits r).2.length ≤ r.length := length_dropWhile_le r
    simp only at h
    split at h
    · simp at h
    · split at h
      · have := length_readExponent h
        simp only [List.length_tail, List.length_cons] at this ⊢
        omega
      · rw [finish_rest h]
        simp only [List.length_cons]
        omega
  · simp only at h
    split at h
    · have := length_readExponent h
      simp only [List.length_tail] at this
      omega
    · exact Nat.le_of_eq (congrArg List.length (finish_rest h))

theorem length_readNumber {negative : Bool} {cs rest : List Char} {v : Found}
    (h : readNumber negative cs = .ok (v, rest)) : rest.length ≤ cs.length := by
  unfold readNumber at h
  split at h
  · simp at h
  · next c r =>
    split at h
    · split at h
      · simp at h
      · have := length_readAfterWhole h
        simp
        omega
    · split at h
      · have := length_readAfterWhole h
        exact Nat.le_trans this (length_dropWhile_le _)
      · simp at h

theorem length_skipExponent {cs rest : List Char} (h : skipExponent cs = .ok rest) :
    rest.length ≤ cs.length := by
  unfold skipExponent at h
  split at h
  · injection h with h
    subst h
    exact Nat.le_trans (length_dropWhile_le _) (length_afterSign cs)
  · simp at h

theorem length_skipAfterWhole {cs rest : List Char} (h : skipAfterWhole cs = .ok rest) :
    rest.length ≤ cs.length := by
  unfold skipAfterWhole at h
  split at h
  · next r =>
    have hr : (spanDigits r).2.length ≤ r.length := length_dropWhile_le r
    simp only at h
    split at h
    · simp at h
    · split at h
      · have := length_skipExponent h
        simp at this ⊢
        omega
      · injection h with h
        subst h
        simp
        omega
  · split at h
    · have := length_skipExponent h
      simp at this ⊢
      omega
    · injection h with h
      subst h
      simp

theorem length_skipNumber {cs rest : List Char} (h : skipNumber cs = .ok rest) :
    rest.length < cs.length := by
  unfold skipNumber at h
  split at h
  · simp at h
  · next c r =>
    have hr : (spanDigits r).2.length ≤ r.length := length_dropWhile_le r
    split at h
    · split at h
      · simp at h
      · have := length_skipAfterWhole h
        simp
        omega
    · split at h
      · have := length_skipAfterWhole h
        simp
        omega
      · simp at h

end Liveness.Json
