import Liveness.Unicode.Bidi
import Liveness.Unicode.Joining
import Liveness.Unicode.Mark
import Liveness.Unicode.Normalization
import Liveness.Url.Host.Mapping
import Liveness.Url.Host.Punycode

/-! Domain names. A name is mapped and normalised, cut into labels at the dots, and
every label is checked; labels that are not ASCII are then written in Punycode. -/

namespace Liveness.Url.Host

open Unicode

/-- The parts of a list between the elements equal to `d`. -/
def splitOn (d : Char) (cs : List Char) : List (List Char) :=
  match cs with
  | [] => [[]]
  | c :: cs =>
    match splitOn d cs with
    | [] => [[c]]
    | p :: ps => if c = d then [] :: p :: ps else (c :: p) :: ps

def joinWith (d : Char) : List (List Char) → List Char
  | [] => []
  | [p] => p
  | p :: ps => p ++ d :: joinWith d ps

def isAscii (cs : List Char) : Bool := cs.all fun c => c.toNat < 0x80

/-- Characters that no host name holds: controls, the space, capitals, which have become
small by then, and those with a meaning of their own in a URL. -/
def isForbidden (c : Char) : Bool :=
  c.toNat ≤ 0x20 || c.toNat = 0x7f || c.isUpper ||
    ['%', '#', '/', ':', '<', '>', '?', '@', '[', '\\', ']', '^', '|'].contains c

/-- What a name maps to, or nothing if it holds a character that is refused. -/
def mapped? : List Char → Option (List Char)
  | [] => some []
  | c :: cs =>
    match fate c with
    | .keep => (mapped? cs).map (c :: ·)
    | .refuse => none
    | .drop => mapped? cs
    | .replace ns => (mapped? cs).map (ns.map Char.ofNat ++ ·)

def punycodePrefix : List Char := ['x', 'n', '-', '-']

/-- The longest label that is written in Punycode, and the longest that is read. -/
def maxEncoded : Nat := 1000

def maxDecoded : Nat := 2000

/-- The label that a mapped label stands for. -/
def meaning? (label : List Char) : Option (List Char) :=
  if label.take 4 = punycodePrefix then
    let code := label.drop 4
    if code = [] || code.getLast? = some '-' || maxDecoded < code.length then none
    else (Punycode.decode? code).filter fun l => !isAscii l
  else some label

def isVirama (c : Char) : Bool := combiningClass c = 9

/-- Whether the letters around a joiner connect: past transparent ones, `before` (read
backwards) joins to its right and `after` to its left. -/
def connects (before after : List Char) : Bool :=
  let next (cs : List Char) := (cs.dropWhile fun c => joiningType c = .transparent).head?
  (next before).any (fun c => joiningType c = .left || joiningType c = .dual) &&
    (next after).any (fun c => joiningType c = .right || joiningType c = .dual)

/-- Whether every joiner stands in a place where it matters. `before` is the text in
front, last character first. -/
def joinersFit (before : List Char) : List Char → Bool
  | [] => true
  | c :: cs =>
    (if c = '\u200c' then before.head?.any isVirama || connects before cs
      else if c = '\u200d' then before.head?.any isVirama
      else true) && joinersFit (c :: before) cs

/-- Whether a label is one that may stand in a name, the rule for directions apart. -/
def labelIsValid (label : List Char) : Bool :=
  isAscii label ||
    (normalize label = label && label.all (fun c => fate c = .keep) &&
      !label.head?.any isMark && joinersFit [] label)

/-- Nothing in front of the Hebrew letters is written from right to left. -/
def isRightToLeft (c : Char) : Bool :=
  0x590 ≤ c.toNat &&
    match bidiClass c with
    | .right => true
    | .arabicLetter => true
    | .arabicNumber => true
    | _ => false

/-- The rule for directions, for a label of a name that has right-to-left characters. -/
def directionIsValid (label : List Char) : Bool :=
  let classes := label.map bidiClass
  let last := (classes.reverse.dropWhile (· = .nonspacingMark)).head?
  let neutral (b : BidiClass) := [.europeanNumber, .europeanSeparator, .commonSeparator,
    .europeanTerminator, .otherNeutral, .boundaryNeutral, .nonspacingMark].contains b
  match classes with
  | [] => true
  | .left :: _ =>
    classes.all (fun b => b = .left || neutral b) &&
      last.any fun b => b = .left || b = .europeanNumber
  | first :: _ =>
    (first = .right || first = .arabicLetter) &&
      classes.all (fun b =>
        b = .right || b = .arabicLetter || b = .arabicNumber || neutral b) &&
      (last.any fun b => b = .right || b = .arabicLetter || b = .europeanNumber ||
        b = .arabicNumber) &&
      !(classes.contains .europeanNumber && classes.contains .arabicNumber)

/-- A label as it is sent: ASCII stays, anything else is written in Punycode. -/
def encodedLabel? (label : List Char) : Option (List Char) :=
  if isAscii label then some label
  else if maxEncoded < label.length then none
  else some (punycodePrefix ++ Punycode.encode label)

/-- The ASCII form of a domain name. -/
def domainToAscii? (name : List Char) : Option (List Char) := do
  let mapped ← mapped? name
  let labels ← (splitOn '.' (normalize mapped)).mapM meaning?
  if labels.any (·.any isForbidden) then none
  else if !labels.all labelIsValid then none
  else if labels.any (·.any isRightToLeft) && !labels.all directionIsValid then none
  else return joinWith '.' (← labels.mapM encodedLabel?)

end Liveness.Url.Host
