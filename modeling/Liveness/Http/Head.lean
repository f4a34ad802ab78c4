import Liveness.Http.Reading
import Liveness.Http.Request

/-! The head of a response: the status line and the header lines. -/

namespace Liveness.Http

open Text

/-- What can be wrong with a head. -/
inductive HeadFault where
  /-- The connection ends before the head does. -/
  | closed
  | version
  | status
  | header
  | contentLength
  | transferEncoding
  | tooLarge
  /-- What the client did not expect of its own parts. -/
  | internal
  deriving DecidableEq, Repr

def HeadFault.message : HeadFault → String
  | .closed => "connection closed before message completed"
  | .version => "invalid HTTP version parsed"
  | .status => "invalid HTTP status-code parsed"
  | .header => "invalid HTTP header parsed"
  | .contentLength => "invalid content-length parsed"
  | .transferEncoding => "unexpected transfer-encoding parsed"
  | .tooLarge => "message head is too large"
  | .internal => "internal error inside Hyper and/or its dependencies, please report"

structure Head where
  /-- Whether the version is 1.1 rather than 1.0. -/
  current : Bool
  status : Nat
  headers : List Header
  deriving DecidableEq, Repr

abbrev HeadReading (α : Type) := Reading HeadFault α

def isDigitByte (b : UInt8) : Bool := 0x30 ≤ b.toNat && b.toNat ≤ 0x39

/-- Bytes of header names. -/
def isNameByte (b : UInt8) : Bool :=
  (Char.ofNat b.toNat).isAlphanum ||
    ['!', '#', '$', '%', '&', '\'', '*', '+', '-', '.', '^', '_', '\x60', '|', '~'].contains
      (Char.ofNat b.toNat)

/-- Goes past empty lines in front of a head. -/
def skipEmptyLines : Bytes → HeadReading Unit
  | [] => .more .closed
  | b :: bs =>
    if b = 0x0A then skipEmptyLines bs
    else if b = 0x0D then
      match bs with
      | [] => .more .closed
      | c :: cs => if c = 0x0A then skipEmptyLines cs else .failed .header
    else .done () (b :: bs)

/-- The text of a line, which ends in a line feed with or without a carriage return
before it. Other control characters than tabs are refused. -/
def readLine (fault : HeadFault) : Bytes → HeadReading Bytes
  | [] => .more .closed
  | b :: bs =>
    if b = 0x0A then .done [] bs
    else if b = 0x0D then
      match bs with
      | [] => .more .closed
      | c :: cs => if c = 0x0A then .done [] cs else .failed fault
    else if isValueByte b then (readLine fault bs).map (b :: ·)
    else .failed fault

def versionText (current : Bool) : Bytes := Utf8.encode (if current then "HTTP/1.1" else "HTTP/1.0")

/-- The version, by its eight characters; fewer are enough to see that it is none. -/
def readVersion (bs : Bytes) : HeadReading Bool :=
  if 8 ≤ bs.length then
    if bs.take 8 = versionText true then .done true (bs.drop 8)
    else if bs.take 8 = versionText false then .done false (bs.drop 8)
    else .failed .version
  else if bs.isPrefixOf ((versionText true).take 7) then .more .closed
  else .failed .version

/-- The digits of a status. -/
def readDigits (n : Nat) : Nat → Bytes → HeadReading Nat
  | 0, bs => .done n bs
  | _ + 1, [] => .more .closed
  | k + 1, b :: bs =>
    if isDigitByte b then readDigits (10 * n + (b.toNat - 0x30)) k bs else .failed .status

/-- A status is a number of three digits. -/
def readStatus (bs : Bytes) : HeadReading Nat :=
  match bs with
  | [] => .more .closed
  | b :: bs => if b = 0x20 then readDigits 0 3 bs else .failed .version

/-- The end of a status line, with or without a reason. -/
def readReason (bs : Bytes) : HeadReading Unit :=
  match bs with
  | [] => .more .closed
  | b :: _ =>
    if b = 0x20 ∨ b = 0x0A ∨ b = 0x0D then (readLine .status bs).map fun _ => ()
    else .failed .status

def isBlankByte (b : UInt8) : Bool := b = 0x20 || b = 0x09

def trimBytes (bs : Bytes) : Bytes :=
  ((bs.dropWhile isBlankByte).reverse.dropWhile isBlankByte).reverse

def nameOfBytes (bs : Bytes) : String :=
  String.ofList (bs.map fun b => (Char.ofNat b.toNat).toLower)

/-- A header name, which ends at a colon. -/
def readName : Bytes → HeadReading Bytes
  | [] => .more .closed
  | b :: bs =>
    if isNameByte b then (readName bs).map (b :: ·)
    else if b = 0x3A then .done [] bs
    else .failed .header

def readHeader (bs : Bytes) : HeadReading Header :=
  (readName bs).bind fun name rest =>
  (readLine .header rest).map fun value => ⟨nameOfBytes name, trimBytes value⟩

/-- The end of a head, if it is there, or else what there is if a header line comes. -/
def endOr (bs : Bytes) (header : HeadReading (List Header)) : HeadReading (List Header) :=
  match bs with
  | [] => .more .closed
  | b :: _ =>
    if b = 0x0A ∨ b = 0x0D then (readLine .header bs).map fun _ => []
    else if !isNameByte b then .failed .header
    else header

/-- The header lines, at most `room` of them, up to an empty line. -/
def readHeaders : (room : Nat) → Bytes → HeadReading (List Header)
  | 0, bs => endOr bs (.failed .tooLarge)
  | room + 1, bs =>
    endOr bs ((readHeader bs).bind fun h rest => (readHeaders room rest).map (h :: ·))

def maxHeaders : Nat := 100

/-- The longest head, in bytes. -/
def maxHead : Nat := 8192 + 4096 * 100

def readLines (bs : Bytes) : HeadReading Head :=
  (skipEmptyLines bs).bind fun _ bs =>
  (readVersion bs).bind fun current bs =>
  (readStatus bs).bind fun status bs =>
  (readReason bs).bind fun _ bs =>
  (readHeaders maxHeaders bs).map fun headers => ⟨current, status, headers⟩

/-- The longest name of a header, in bytes. -/
def maxName : Nat := 65535

/-- What is wrong with a head that has come in full. -/
def Head.fault? (h : Head) : Option HeadFault :=
  if h.status < 100 then some .status
  else if h.headers.any fun g => maxName < g.name.length then some .internal
  else none

def readHead (bs : Bytes) : HeadReading Head :=
  if maxHead ≤ bs.length && (readLines (bs.take maxHead)).isMore then .failed .tooLarge
  else (readLines bs).bind fun h rest =>
    match h.fault? with
    | some e => .failed e
    | none => .done h rest

open Reading (Leaves)

theorem skipEmptyLines_leaves (bs : Bytes) : Leaves bs.length (skipEmptyLines bs) := by
  fun_induction skipEmptyLines bs with
  | case1 => exact .more _ _
  | case2 bs ih => exact ih.mono (Nat.le_succ _)
  | case3 => exact .more _ _
  | case4 => rename_i ih; exact ih.mono (by simp; omega)
  | case5 => exact .failed _ _
  | case6 => exact .done (Nat.le_refl _)

theorem readLine_leaves (fault : HeadFault) (bs : Bytes) :
    Leaves bs.length (readLine fault bs) := by
  fun_induction readLine fault bs with
  | case1 => exact .more _ _
  | case2 bs => exact .done (Nat.le_succ _)
  | case3 => exact .more _ _
  | case4 => exact .done (by simp; omega)
  | case5 => exact .failed _ _
  | case6 => rename_i ih; exact ih.map.mono (Nat.le_succ _)
  | case7 => exact .failed _ _

theorem readVersion_leaves (bs : Bytes) : Leaves (bs.length - 8) (readVersion bs) := by
  unfold readVersion
  repeat' split
  · exact .done (by simp)
  · exact .done (by simp)
  · exact .failed _ _
  · exact .more _ _
  · exact .failed _ _

theorem readDigits_leaves (n k : Nat) (bs : Bytes) : Leaves bs.length (readDigits n k bs) := by
  fun_induction readDigits n k bs with
  | case1 => exact .done (Nat.le_refl _)
  | case2 => exact .more _ _
  | case3 => rename_i ih; exact ih.mono (Nat.le_succ _)
  | case4 => exact .failed _ _

theorem readStatus_leaves (bs : Bytes) : Leaves bs.length (readStatus bs) := by
  unfold readStatus
  split
  · exact .more _ _
  · split
    · exact (readDigits_leaves 0 3 _).mono (Nat.le_succ _)
    · exact .failed _ _

theorem readReason_leaves (bs : Bytes) : Leaves bs.length (readReason bs) := by
  unfold readReason
  split
  · exact .more _ _
  · split
    · exact (readLine_leaves _ _).map
    · exact .failed _ _

theorem readName_leaves (bs : Bytes) : Leaves bs.length (readName bs) := by
  fun_induction readName bs with
  | case1 => exact .more _ _
  | case2 => rename_i ih; exact ih.map.mono (Nat.le_succ _)
  | case3 => exact .done (Nat.le_succ _)
  | case4 => exact .failed _ _

theorem readHeader_leaves (bs : Bytes) : Leaves bs.length (readHeader bs) :=
  (readName_leaves bs).bind fun _ _ h => (readLine_leaves _ _).map.mono h

theorem endOr_leaves {bs : Bytes} {header : HeadReading (List Header)}
    (h : Leaves bs.length header) : Leaves bs.length (endOr bs header) := by
  unfold endOr
  split
  · exact .more _ _
  · split
    · exact (readLine_leaves _ _).map
    · split
      · exact .failed _ _
      · exact h

theorem readHeaders_leaves (room : Nat) (bs : Bytes) :
    Leaves bs.length (readHeaders room bs) := by
  induction room generalizing bs with
  | zero => exact endOr_leaves (.failed _ _)
  | succ room ih => exact endOr_leaves ((readHeader_leaves _).bind fun _ _ h => (ih _).map.mono h)

theorem readLines_leaves (bs : Bytes) : Leaves (bs.length - 8) (readLines bs) :=
  (skipEmptyLines_leaves bs).bind fun _ _ h₁ =>
  (readVersion_leaves _).bind fun _ _ h₂ =>
  (readStatus_leaves _).bind fun _ _ h₃ =>
  (readReason_leaves _).bind fun _ _ h₄ =>
  ((readHeaders_leaves _ _).map).mono (by omega)

theorem readHead_leaves (bs : Bytes) : Leaves (bs.length - 8) (readHead bs) := by
  unfold readHead
  split
  · exact .failed _ _
  · refine (readLines_leaves bs).bind fun h rest hle => ?_
    split
    · exact .failed _ _
    · exact .done hle

namespace Head

def first? (h : Head) (name : String) : Option Bytes :=
  (h.headers.find? fun g => g.name = name).map (·.value)

def all (h : Head) (name : String) : List Bytes :=
  (h.headers.filter fun g => g.name = name).map (·.value)

end Head

/-- The parts of a text between commas, without blanks around them. -/
def listParts (bs : Bytes) : List Bytes :=
  (bs.splitOn 0x2C).map trimBytes

/-- The parts of a value, if it is all visible. -/
def listValue? (bs : Bytes) : Option (List Bytes) :=
  if bs.all fun b => (0x20 ≤ b.toNat && b.toNat < 0x7f) || b.toNat = 0x09 then some (listParts bs)
  else none

def equalsIgnoringCase (bs : Bytes) (word : String) : Bool := nameOfBytes bs = word

/-- Whether a connection may be used again; each line about it counts. -/
def Head.keepsAlive (h : Head) : Bool :=
  (h.all "connection").foldl
    (fun alive value =>
      let parts := (listValue? value).getD []
      if alive then !parts.any (equalsIgnoringCase · "close")
      else parts.any (equalsIgnoringCase · "keep-alive"))
    h.current

end Liveness.Http
