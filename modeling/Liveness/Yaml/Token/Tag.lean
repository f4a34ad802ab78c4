import Liveness.Yaml.Cursor
import Liveness.Yaml.Token.Basic

/-! Tags, directives and the names of anchors. -/

namespace Liveness.Yaml

/-- The characters of a tag, other than escapes; more of them if the tag is delimited. -/
def isUriChar (delimited : Bool) (c : Char) : Bool :=
  isNameChar c ||
    [';', '/', '?', ':', '@', '&', '=', '+', '$', '.', '!', '~', '*', '\'', '(', ')'].contains c ||
    (delimited && [',', '[', ']'].contains c)

/-- The octet that a percent sign and two digits denote. -/
def octet? (cs : List Char) : Option Nat :=
  match cs with
  | '%' :: a :: b :: _ =>
    match hexValue? a, hexValue? b with
    | some a, some b => some (16 * a + b)
    | _, _ => none
  | _ => none

/-- How many octets follow the first octet of a character. -/
def trailingOctets? (octet : Nat) : Option Nat :=
  if octet < 0x80 then some 0
  else if octet / 0x20 = 0x06 then some 1
  else if octet / 0x10 = 0x0E then some 2
  else if octet / 0x08 = 0x1E then some 3
  else none

/-- Where a URI stands. -/
inductive UriPlace where
  | directive
  | tag
  deriving DecidableEq, Repr

def UriPlace.context : UriPlace → Context
  | .directive => .tagDirectivePrefix
  | .tag => .tagUri

/-- The `n` octets that complete a character. -/
def readTrailingOctets (place : UriPlace) (start : Mark) :
    Nat → Cursor → Except Error (Text.Bytes × Cursor)
  | 0, c => .ok ([], c)
  | n + 1, c =>
    match octet? c.rest with
    | none => c.fail .noEscapedOctet place.context start
    | some x =>
      if x / 0x40 = 2 then
        (readTrailingOctets place start n (c.advance 3)).map fun (xs, c) => (x.toUInt8 :: xs, c)
      else c.fail .badTrailingOctet place.context start

/-- A character by its escaped octets. -/
def readOctets (place : UriPlace) (start : Mark) (c : Cursor) :
    Except Error (Text.Bytes × Cursor) :=
  match octet? c.rest with
  | none => c.fail .noEscapedOctet place.context start
  | some x =>
    match trailingOctets? x with
    | none => c.fail .badLeadingOctet place.context start
    | some n =>
      (readTrailingOctets place start n (c.advance 3)).map fun (xs, c) => (x.toUInt8 :: xs, c)

theorem readTrailingOctets_left (place : UriPlace) (start : Mark) (n : Nat) (c : Cursor) :
    Ensures (readTrailingOctets place start n c) (left · ≤ c.rest.length) := by
  induction n generalizing c with
  | zero => exact .ok (Nat.le_refl _)
  | succ n ih =>
    unfold readTrailingOctets
    split
    · exact .error _ _
    · split
      · exact (ih _).map fun _ h => Nat.le_trans h (c.length_advance 3)
      · exact .error _ _

theorem readOctets_left (place : UriPlace) (start : Mark) (c : Cursor) :
    Ensures (readOctets place start c) (left · < c.rest.length) := by
  unfold readOctets
  split
  · exact .error _ _
  · next h =>
    have hc : (c.advance 3).rest.length < c.rest.length := by
      unfold octet? at h
      split at h
      · next hr => simp [Cursor.advance, hr]; omega
      · simp at h
    split
    · exact .error _ _
    · exact (readTrailingOctets_left _ _ _ _).map fun _ h => Nat.lt_of_le_of_lt h hc

/-- The octets of a URI; none if no URI begins here. -/
def readUri (place : UriPlace) (delimited : Bool) (start : Mark) (c : Cursor) :
    Except Error (Text.Bytes × Cursor) :=
  match _hc : c.rest with
  | [] => .ok ([], c)
  | x :: _ =>
    if x = '%' then
      match _h : readOctets place start c with
      | .error e => .error e
      | .ok (xs, d) =>
        (readUri place delimited start d).map fun (ys, d) => (xs ++ ys, d)
    else if isUriChar delimited x then
      (readUri place delimited start (c.advance 1)).map fun (ys, d) => (x.toNat.toUInt8 :: ys, d)
    else .ok ([], c)
termination_by c.rest.length
decreasing_by
  · exact readOctets_left _ _ _ _ _h
  · simp [Cursor.advance, _hc]

theorem readUri_left (place : UriPlace) (delimited : Bool) (start : Mark) (c : Cursor) :
    Ensures (readUri place delimited start c) (left · ≤ c.rest.length) := by
  fun_induction readUri place delimited start c with
  | case1 => exact .ok (Nat.le_refl _)
  | case2 => exact .error _ _
  | case3 =>
    rename_i hr _ ih
    exact ih.map fun _ h => Nat.le_trans h (Nat.le_of_lt (readOctets_left _ _ _ _ hr))
  | case4 =>
    rename_i ih
    exact ih.map fun _ h => Nat.le_trans h (Cursor.length_advance _ 1)
  | case5 => exact .ok (Nat.le_refl _)

/-- A URI that must not be empty. -/
def readSomeUri (place : UriPlace) (delimited : Bool) (start : Mark) (c : Cursor) :
    Except Error (Text.Bytes × Cursor) :=
  (readUri place delimited start c).bind fun (uri, c) =>
  if uri.isEmpty then c.fail .noTagUri place.context start else .ok (uri, c)

theorem readSomeUri_left (place : UriPlace) (delimited : Bool) (start : Mark) (c : Cursor) :
    Ensures (readSomeUri place delimited start c) (left · ≤ c.rest.length) :=
  (readUri_left place delimited start c).bind fun p hp => by
    dsimp only
    split
    · exact .error _ _
    · exact .ok hp

/-- A handle, behind its first exclamation mark: a name, and whether a second mark ends
it. -/
def readHandle (c : Cursor) : List Char × Bool × Cursor :=
  let name := c.rest.takeWhile isNameChar
  let d := c.skipWhile isNameChar
  if d.rest.head? = some '!' then (name, true, d.advance 1) else (name, false, d)

theorem length_readHandle (c : Cursor) : (readHandle c).2.2.rest.length ≤ c.rest.length := by
  unfold readHandle
  dsimp only
  split
  · exact Nat.le_trans (Cursor.length_advance _ 1) (c.length_advance _)
  · exact c.length_advance _

/-- The octets of a name, which is written in ASCII. -/
def octets (name : List Char) : Text.Bytes := name.map (·.toNat.toUInt8)

/-- The token for a tag, provided the text goes on as it should behind a tag. -/
def endTag (inFlow : Bool) (start : Mark) (handle : List Char) (suffix : Text.Bytes)
    (c : Cursor) : Except Error (Token × Cursor) :=
  if atGap c.rest || (inFlow && c.rest.head? = some ',') then
    .ok (⟨.tag handle suffix, start, c.mark⟩, c)
  else c.fail .noTagBlankOrBreak .tag start

/-- A tag, behind its exclamation mark: in angle brackets, or a suffix behind a handle.
Without a name for its handle a tag is local, and a lone mark is a suffix itself. -/
def readTag (inFlow : Bool) (start : Mark) (c : Cursor) : Except Error (Token × Cursor) :=
  if c.rest.head? = some '<' then
    (readSomeUri .tag true start (c.advance 1)).bind fun (uri, c) =>
    if c.rest.head? = some '>' then endTag inFlow start [] uri (c.advance 1)
    else c.fail .noTagEnd .tag start
  else
    match readHandle c with
    | (name, true, c) =>
      (readSomeUri .tag false start c).bind fun (uri, c) =>
      endTag inFlow start ('!' :: name ++ ['!']) uri c
    | (name, false, c) =>
      (readUri .tag false start c).bind fun (uri, c) =>
      if name = [] ∧ uri = [] then endTag inFlow start [] (octets ['!']) c
      else endTag inFlow start ['!'] (octets name ++ uri) c

theorem endTag_left (inFlow : Bool) (start : Mark) (handle : List Char) (suffix : Text.Bytes)
    (c : Cursor) : Ensures (endTag inFlow start handle suffix c) (left · ≤ c.rest.length) := by
  unfold endTag
  split
  · exact .ok (Nat.le_refl _)
  · exact .error _ _

theorem readTag_left (inFlow : Bool) (start : Mark) (c : Cursor) :
    Ensures (readTag inFlow start c) (left · ≤ c.rest.length) := by
  have hh := length_readHandle c
  unfold readTag
  split
  · refine (readSomeUri_left .tag true start _).bind fun p hp => ?_
    have hp := Nat.le_trans hp (c.length_advance 1)
    dsimp only
    split
    · exact (endTag_left _ _ _ _ _).mono fun _ h =>
        Nat.le_trans h (Nat.le_trans (Cursor.length_advance _ 1) hp)
    · exact .error _ _
  · split
    · next hr =>
      rw [hr] at hh
      exact (readSomeUri_left .tag false start _).bind fun p hp =>
        (endTag_left _ _ _ _ _).mono fun _ h => Nat.le_trans h (Nat.le_trans hp hh)
    · next hr =>
      rw [hr] at hh
      refine (readUri_left .tag false start _).bind fun p hp => ?_
      dsimp only
      split <;>
        exact (endTag_left _ _ _ _ _).mono fun _ h => Nat.le_trans h (Nat.le_trans hp hh)

/-- A number of at most nine digits. -/
def readVersionNumber (start : Mark) (c : Cursor) : Except Error (Nat × Cursor) :=
  let digits := c.rest.takeWhile Char.isDigit
  if 9 < digits.length then (c.advance 9).fail .longVersion .versionDirective start
  else if digits = [] then c.fail .noVersion .versionDirective start
  else .ok (digits.foldl (fun n d => 10 * n + (d.toNat - 0x30)) 0, c.advance digits.length)

def readVersion (start : Mark) (c : Cursor) : Except Error (Symbol × Cursor) :=
  (readVersionNumber start c.skipBlanks).bind fun (major, c) =>
  if c.rest.head? = some '.' then
    (readVersionNumber start (c.advance 1)).map fun (minor, c) => (.version major minor, c)
  else c.fail .noVersionPoint .versionDirective start

/-- The handle that a directive declares: a single mark, or a name between two. -/
def readDeclaredHandle (start : Mark) (c : Cursor) : Except Error (List Char × Cursor) :=
  if c.rest.head? = some '!' then
    match readHandle (c.advance 1) with
    | (name, true, c) => .ok ('!' :: name ++ ['!'], c)
    | ([], false, c) => .ok (['!'], c)
    | (_, false, c) => c.fail .noTagMark .tagDirectiveName start
  else c.fail .noTagMark .tagDirectiveHandle start

def readTagDirective (start : Mark) (c : Cursor) : Except Error (Symbol × Cursor) :=
  (readDeclaredHandle start c.skipBlanks).bind fun (handle, c) =>
  if c.rest.head?.any isBlank then
    (readSomeUri .directive true start c.skipBlanks).bind fun (target, c) =>
    if atGap c.rest then .ok (.tagDirective handle target, c)
    else c.fail .noTagBlankOrBreak .tagDirective start
  else c.fail .noTagBlank .tagDirective start

/-- The value of a directive of the given name. -/
def readDirectiveValue (name : List Char) (start : Mark) (c : Cursor) :
    Except Error (Symbol × Cursor) :=
  if name = ['Y', 'A', 'M', 'L'] then readVersion start c
  else if name = ['T', 'A', 'G'] then readTagDirective start c
  else c.fail .unknownDirective .directive start

/-- A directive, behind its percent sign, up to the end of its line. -/
def readDirective (start : Mark) (c : Cursor) : Except Error (Token × Cursor) :=
  let name := c.rest.takeWhile isNameChar
  let d := c.advance name.length
  if name = [] then d.fail .noDirectiveName .directive start
  else if atGap d.rest then
    (readDirectiveValue name start d).bind fun (symbol, d) =>
    (endLine .directive start d).map fun e => (⟨symbol, start, d.mark⟩, e)
  else d.fail .badDirectiveName .directive start

theorem readVersionNumber_left (start : Mark) (c : Cursor) :
    Ensures (readVersionNumber start c) (left · ≤ c.rest.length) := by
  unfold readVersionNumber
  dsimp only
  split
  · exact .error _ _
  · split
    · exact .error _ _
    · exact .ok (c.length_advance _)

theorem readVersion_left (start : Mark) (c : Cursor) :
    Ensures (readVersion start c) (left · ≤ c.rest.length) :=
  (readVersionNumber_left start _).bind fun p hp => by
    have hp := Nat.le_trans hp (c.length_advance _)
    dsimp only
    split
    · exact (readVersionNumber_left start _).map fun _ h =>
        Nat.le_trans h (Nat.le_trans (Cursor.length_advance _ 1) hp)
    · exact .error _ _

theorem readDeclaredHandle_left (start : Mark) (c : Cursor) :
    Ensures (readDeclaredHandle start c) (left · ≤ c.rest.length) := by
  have hh := Nat.le_trans (length_readHandle (c.advance 1)) (c.length_advance 1)
  unfold readDeclaredHandle
  split
  · split
    · next hr => exact .ok (by rwa [hr] at hh)
    · next hr => exact .ok (by rwa [hr] at hh)
    · exact .error _ _
  · exact .error _ _

theorem readTagDirective_left (start : Mark) (c : Cursor) :
    Ensures (readTagDirective start c) (left · ≤ c.rest.length) :=
  (readDeclaredHandle_left start _).bind fun p hp => by
    have hp := Nat.le_trans hp (c.length_advance _)
    dsimp only
    split
    · refine (readSomeUri_left .directive true start _).bind fun q hq => ?_
      have hq := Nat.le_trans hq (Cursor.length_advance _ _)
      split
      · exact .ok (Nat.le_trans hq hp)
      · exact .error _ _
    · exact .error _ _

theorem readDirectiveValue_left (name : List Char) (start : Mark) (c : Cursor) :
    Ensures (readDirectiveValue name start c) (left · ≤ c.rest.length) := by
  unfold readDirectiveValue
  split
  · exact readVersion_left start c
  · split
    · exact readTagDirective_left start c
    · exact .error _ _

theorem readDirective_left (start : Mark) (c : Cursor) :
    Ensures (readDirective start c) (left · ≤ c.rest.length) := by
  unfold readDirective
  dsimp only
  split
  · exact .error _ _
  · split
    · exact (readDirectiveValue_left _ start _).bind fun _ hd =>
        (endLine_left _ start _).map fun _ h =>
          Nat.le_trans h (Nat.le_trans hd (c.length_advance _))
    · exact .error _ _

/-- The name of an anchor or an alias, behind its indicator. -/
def readAnchor (context : Context) (start : Mark) (c : Cursor) :
    Except Error (List Char × Cursor) :=
  let name := c.rest.takeWhile isNameChar
  let d := c.advance name.length
  let ends := atGap d.rest || d.rest.head?.any ['?', ':', ',', ']', '}', '%', '@', '`'].contains
  if name ≠ [] && ends then .ok (name, d)
  else d.fail .noAnchorName context start

theorem readAnchor_left (context : Context) (start : Mark) (c : Cursor) :
    Ensures (readAnchor context start c) (left · ≤ c.rest.length) := by
  unfold readAnchor
  dsimp only
  split
  · exact .ok (c.length_advance _)
  · exact .error _ _

end Liveness.Yaml
