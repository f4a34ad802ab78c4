import Liveness.Decimal.Text
import Liveness.Text.Quoted
import Liveness.Yaml.Document

/-! The values that scalars denote. A tag may say what a scalar is; without one, a plain
scalar is what it looks like, and any other is a string. -/

namespace Liveness.Yaml

/-- The kind of a node that stands where another kind is wanted. -/
inductive Found where
  | unit
  | bool (b : Bool)
  | integer (n : Int)
  /-- An integer that is no word, and no negative of one. -/
  | wide (n : Int)
  | float (x : Float)
  | string (s : String)
  | sequence
  | map

/-- All doubles are written in place. -/
def floats : Decimal.Notation := ⟨fun _ => true, .up⟩

def signedText (n : Int) : String := (if n < 0 then "-" else "") ++ n.natAbs.repr

def Found.describe : Found → String
  | .unit => "unit value"
  | .bool b => "boolean `" ++ (if b then "true" else "false") ++ "`"
  | .integer n => "integer `" ++ signedText n ++ "`"
  | .wide n => "integer `" ++ signedText n ++ "` as " ++ if n < 0 then "i128" else "u128"
  | .float x => "floating point `" ++ floats.write x ++ "`"
  | .string s => "string " ++ Text.Quoted.encode s
  | .sequence => "sequence"
  | .map => "map"

def isNull (cs : List Char) : Bool :=
  cs = ['n', 'u', 'l', 'l'] || cs = ['N', 'u', 'l', 'l'] || cs = ['N', 'U', 'L', 'L'] ||
    cs = ['~']

def readBool? (cs : List Char) : Option Bool :=
  let s := String.ofList cs
  if s = "true" ∨ s = "True" ∨ s = "TRUE" then some true
  else if s = "false" ∨ s = "False" ∨ s = "FALSE" then some false
  else none

/-- A number with one more digit, in a base up to sixteen. -/
def nextDigit? (base n : Nat) (c : Char) : Option Nat :=
  (hexValue? c).bind fun d => if d < base then some (base * n + d) else none

/-- The number that digits denote; there has to be a digit. -/
def digits? (base : Nat) (cs : List Char) : Option Nat :=
  if cs = [] then none else cs.foldlM (nextDigit? base) 0

/-- A number with a letter for its base, `0x`, `0o` or `0b`. -/
def based? : List Char → Option Nat
  | '0' :: 'x' :: cs => digits? 16 cs
  | '0' :: 'o' :: cs => digits? 8 cs
  | '0' :: 'b' :: cs => digits? 2 cs
  | _ => none

/-- A text without a sign in front of it. -/
def unsigned (cs : List Char) : List Char :=
  match cs with
  | '+' :: r => r
  | '-' :: r => r
  | r => r

/-- Several digits of which the first is zero are no number. -/
def isZeroLed (cs : List Char) : Bool :=
  match unsigned cs with
  | '0' :: d :: ds => (d :: ds).all Char.isDigit
  | _ => false

/-- A number without a minus sign, in one of the four bases. -/
def natural? (cs : List Char) : Option Nat :=
  let body := if cs.head? = some '+' then cs.tail else cs
  (based? body).or (if isZeroLed cs then none else digits? 10 body)

/-- The number behind a minus sign. -/
def negated? (cs : List Char) : Option Nat :=
  match cs with
  | '-' :: body => (based? body).or (if isZeroLed cs then none else digits? 10 body)
  | _ => none

def word? (cs : List Char) : Option UInt64 :=
  (natural? cs).bind fun n => if n < UInt64.size then some n.toUInt64 else none

def integer? (cs : List Char) : Option Found :=
  match natural? cs, negated? cs with
  | some n, _ =>
    if n < UInt64.size then some (.integer n)
    else if n < 1 <<< 128 then some (.wide n)
    else none
  | none, some n =>
    if n ≤ 1 <<< 63 then some (.integer (-n))
    else if n ≤ 1 <<< 127 then some (.wide (-n))
    else none
  | none, none => none

/-- The double nearest to `m * 10 ^ e`, unless that is too large. -/
def nearest? (m : Nat) (e : Int) : Option Float :=
  let top := (Decimal.digitCount m : Int) + e
  if m = 0 ∨ top < -330 then some 0
  else if 310 < top then none
  else
    let x := Float.ofScientific m (e < 0) e.natAbs
    if x.isInf then none else some x

/-- An exponent, behind its letter. -/
def exponent? (cs : List Char) : Option Int :=
  (digits? 10 (unsigned cs)).map fun n => if cs.head? = some '-' then -(n : Int) else n

/-- A decimal without sign: digits, with a point among or next to them, and an exponent. -/
def decimal? (cs : List Char) : Option Float :=
  let whole := cs.takeWhile Char.isDigit
  let rest := cs.dropWhile Char.isDigit
  let fraction := if rest.head? = some '.' then rest.tail.takeWhile Char.isDigit else []
  let rest := if rest.head? = some '.' then rest.tail.dropWhile Char.isDigit else rest
  (digits? 10 (whole ++ fraction)).bind fun m =>
  match rest with
  | [] => nearest? m (-(fraction.length : Int))
  | c :: r =>
    if c = 'e' ∨ c = 'E' then (exponent? r).bind fun e => nearest? m (e - fraction.length)
    else none

def isInfinity (cs : List Char) : Bool :=
  cs = ['.', 'i', 'n', 'f'] || cs = ['.', 'I', 'n', 'f'] || cs = ['.', 'I', 'N', 'F']

def isNotANumber (cs : List Char) : Bool :=
  cs = ['.', 'n', 'a', 'n'] || cs = ['.', 'N', 'a', 'N'] || cs = ['.', 'N', 'A', 'N']

def float? (cs : List Char) : Option Float :=
  if isNotANumber cs then some (0.0 / 0.0)
  else
    let body := unsigned cs
    (if isInfinity body then some (1.0 / 0.0) else decimal? body).map fun x =>
      if cs.head? = some '-' then -x else x

/-- What a plain scalar without a tag looks like. -/
def ofPlain (cs : List Char) : Found :=
  if cs = [] ∨ isNull cs then .unit
  else
    match readBool? cs, integer? cs, if isZeroLed cs then none else float? cs with
    | some b, _, _ => .bool b
    | none, some n, _ => n
    | none, none, some x => .float x
    | none, none, none => .string (String.ofList cs)

def standardTag (name : String) : Text.Bytes := Text.Utf8.encode ("tag:yaml.org,2002:" ++ name)

/-- A text that a tag calls for what it is not. -/
structure Mislabelled where
  text : String
  expected : String
  deriving DecidableEq, Repr

/-- What a scalar denotes. -/
def ofScalar (tag : Option Text.Bytes) (cs : List Char) (style : Style) :
    Except Mislabelled Found :=
  let labelled (found : Option Found) (expected : String) : Except Mislabelled Found :=
    match found with
    | some f => .ok f
    | none => .error ⟨String.ofList cs, expected⟩
  match tag with
  | none => .ok (if style = .plain then ofPlain cs else .string (String.ofList cs))
  | some t =>
    if t = standardTag "bool" then labelled ((readBool? cs).map .bool) "a boolean"
    else if t = standardTag "int" then labelled (integer? cs) "an integer"
    else if t = standardTag "float" then labelled ((float? cs).map .float) "a float"
    else if t = standardTag "null" then
      labelled (if isNull cs then some .unit else none) "null"
    else if t.head? = some 0x21 ∧ style = .plain then .ok (ofPlain cs)
    else .ok (.string (String.ofList cs))

end Liveness.Yaml
