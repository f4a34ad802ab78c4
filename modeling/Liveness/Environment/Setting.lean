import Liveness.Environment.Basic

/-! Settings in the names of variables. Behind a common beginning, a name is a key, and a
key may be followed by members and subscripts, as in `a.b[0]`; the value then is that of
something inside what the key denotes. -/

namespace Liveness.Environment

/-- The small letter of an ASCII capital, and of the sign for kelvin, whose small letter is
an ASCII one too. -/
def lower (c : Char) : Char := if c = '\u212a' then 'k' else c.toLower

/-- The name of a variable in small letters. -/
def lowered (v : String × String) : List Char := v.1.toList.map lower

/-- A step into what a key denotes. -/
inductive Step where
  | member (name : List Char)
  | item (index : Int)
  deriving DecidableEq, Repr

def isKeyChar (c : Char) : Bool := c.isAlphanum || c = '_' || c = '-' || c = ' '

def isSpace (c : Char) : Bool := c = ' ' || c = '\t'

/-- The number in a subscript, which has to be a word with sign. -/
def subscript? (cs : List Char) : Option Int :=
  let number := ((cs.dropWhile isSpace).reverse.dropWhile isSpace).reverse
  let digits := if number.head? = some '-' then number.tail else number
  let n := digits.foldl (fun n d => 10 * n + (d.toNat - 0x30)) 0
  if digits = [] || !digits.all Char.isDigit then none
  else if number.head? = some '-' then if n ≤ 1 <<< 63 then some (-n) else none
  else if n < 1 <<< 63 then some n else none

/-- A step at the start of a text, and what follows it. -/
def readStep (cs : List Char) : Option (Step × List Char) :=
  match cs with
  | '.' :: cs =>
    let name := cs.takeWhile isKeyChar
    if name = [] then none else some (.member name, cs.drop name.length)
  | '[' :: cs =>
    let inside := cs.takeWhile (· ≠ ']')
    match cs.drop inside.length with
    | ']' :: rest => (subscript? inside).map fun i => (.item i, rest)
    | _ => none
  | _ => none

theorem length_readStep {cs rest : List Char} {s : Step}
    (h : readStep cs = some (s, rest)) : rest.length < cs.length := by
  unfold readStep at h
  split at h
  · next cs =>
    dsimp only at h
    split at h
    · simp at h
    · injection h with h
      injection h with _ h
      subst h
      simp only [List.length_drop, List.length_cons]
      omega
  · next cs =>
    dsimp only at h
    split at h
    · next r hr =>
      obtain ⟨i, -, h⟩ := Option.map_eq_some_iff.1 h
      injection h with _ h
      subst h
      have := congrArg List.length hr
      simp at this ⊢
      omega
    · simp at h
  · simp at h

/-- The steps that a text is made of. -/
def readPath (cs : List Char) : Option (List Step) :=
  if cs = [] then some []
  else
    match _h : readStep cs with
    | some (s, rest) => (readPath rest).map (s :: ·)
    | none => none
termination_by cs.length
decreasing_by exact length_readStep _h

/-- The key at the start of a text, and the steps behind it. A text that is no key with
steps is a key as a whole. -/
def readKey (cs : List Char) : List Char × List Step :=
  let key := cs.takeWhile isKeyChar
  match readPath (cs.dropWhile isKeyChar) with
  | some path => if key = [] then (cs, []) else (key, path)
  | none => (cs, [])

/-- What has been put in a place, and what is inside it. Of members with the same name the first
counts. -/
inductive Tree where
  | empty
  | text (s : String)
  | table (members : List (List Char × Tree))
  | list (items : List Tree)

/-- The most items that a list can have: so many of 96 bytes fit the half of all addresses. -/
def maxItems : Nat := (1 <<< 63 - 1) / 96

/-- The place of an item in a list of that length, which is made longer if need be. A negative
index counts from the end. -/
def place? (length : Nat) : Int → Option Nat
  | .ofNat n => if n < maxItems then some n else none
  | .negSucc n => if n < length then some (length - (n + 1)) else none

namespace Tree

def members : Tree → List (List Char × Tree)
  | table members => members
  | _ => []

def items : Tree → List Tree
  | list items => items
  | _ => []

/-- Puts a value where some steps lead. What is on the way gives way to a table or a list where it
is none. Nothing comes of it if an index leads out of its list: the process panics. -/
def put (value : String) : List Step → Tree → Option Tree
  | [], _ => some (text value)
  | .member name :: path, t =>
    (put value path ((t.members.lookup name).getD empty)).map fun u =>
      table ((name, u) :: t.members)
  | .item index :: path, t =>
    (place? t.items.length index).bind fun i =>
      let items := t.items ++ List.replicate (i + 1 - t.items.length) empty
      (put value path (items.getD i empty)).map fun u => list (items.set i u)

end Tree

/-- What stands behind the common beginning in the name of a variable. -/
def ownName? (start : List Char) (v : String × String) : Option (List Char) :=
  if start.isPrefixOf (lowered v) then some ((lowered v).drop start.length) else none

/-- Of variables with the same name, in capitals or not, the last ones. -/
def lastOnes : List (String × String) → List (String × String)
  | [] => []
  | v :: vs => if vs.any (lowered · = lowered v) then lastOnes vs else v :: lastOnes vs

/-- Puts the value of a variable where its name leads. -/
def add (start : List Char) (t : Tree) (v : String × String) : Option Tree :=
  match ownName? start v with
  | none => some t
  | some name => t.put v.2 (.member (readKey name).1 :: (readKey name).2)

/-- The settings in some variables, put in their order. -/
def tree? (start : List Char) (vs : List (String × String)) : Option Tree :=
  (lastOnes vs).foldlM (add start) (.table [])

/-- What a key denotes. -/
inductive Setting where
  | text (s : String)
  | table
  | list
  deriving DecidableEq, Repr

def Tree.setting? : Tree → Option Setting
  | empty => none
  | text s => some (.text s)
  | table _ => some .table
  | list _ => some .list

def Tree.denoted? (t : Tree) (key : String) : Option Setting :=
  (t.members.lookup key.toList).bind setting?

end Liveness.Environment
