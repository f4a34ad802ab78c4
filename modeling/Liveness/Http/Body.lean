import Liveness.Http.Head

/-! The body of a response: how its end is told, and how it is read. -/

namespace Liveness.Http

open Text

/-- What can be wrong with a body. -/
inductive BodyFault where
  /-- The connection ends within data, or within a size line or what follows the data. -/
  | cutShort
  | cutInLine
  | noSize
  | badSize
  | hugeSize
  | badSizeBlank
  | breakInExtension
  | longExtensions
  | badSizeEnd
  | badDataReturn
  | badDataFeed
  | badTrailerEnd
  | badEnd
  deriving DecidableEq, Repr

def BodyFault.message : BodyFault → String
  | .cutShort => "end of file before message length reached"
  | .cutInLine => "unexpected EOF during chunk size line"
  | .noSize => "Invalid chunk size line: missing size digit"
  | .badSize => "Invalid chunk size line: Invalid Size"
  | .hugeSize => "invalid chunk size: overflow"
  | .badSizeBlank => "Invalid chunk size linear white space"
  | .breakInExtension => "invalid chunk extension contains newline"
  | .longExtensions => "chunk extensions over limit"
  | .badSizeEnd => "Invalid chunk size LF"
  | .badDataReturn => "Invalid chunk body CR"
  | .badDataFeed => "Invalid chunk body LF"
  | .badTrailerEnd => "Invalid trailer end LF"
  | .badEnd => "Invalid chunk end LF"

abbrev BodyReading (α : Type) := Reading BodyFault α

inductive Framing where
  | length (n : Nat)
  | chunked
  /-- The body ends with the connection. -/
  | untilClose
  deriving DecidableEq, Repr

/-- A length is digits alone, and fits a word. -/
def lengthOf? (bs : Bytes) : Option Nat :=
  let n := bs.foldl (fun n b => 10 * n + (b.toNat - 0x30)) 0
  if bs ≠ [] && bs.all isDigitByte && n < UInt64.size then some n else none

/-- Lengths may be given several times if they are all the same. -/
def lengthOfAll? (values : List Bytes) : Option Nat :=
  match (values.mapM listValue?).map List.flatten with
  | some (first :: others) =>
    if others.all (lengthOf? · = lengthOf? first) then lengthOf? first else none
  | _ => none

/-- The longest length that is accepted. -/
def maxLength : Nat := UInt64.size - 3

/-- Whether chunks are the last of the codings. -/
def isChunked (h : Head) : Bool :=
  match (h.all "transfer-encoding").getLast? with
  | none => false
  | some value =>
    match listValue? value with
    | none => false
    | some parts => (parts.getLast?.map (equalsIgnoringCase · "chunked")).getD false

/-- Whether a response is only a notice that another one will come. -/
def Head.isInterim (h : Head) : Bool := 100 ≤ h.status && h.status < 200 && h.status ≠ 101

def Head.framing (h : Head) : Except HeadFault Framing :=
  if h.status = 101 ∨ h.status = 204 ∨ h.status = 304 then .ok (.length 0)
  else if h.all "transfer-encoding" ≠ [] then
    if !h.current then .error .transferEncoding
    else if isChunked h then .ok .chunked
    else .ok .untilClose
  else if h.all "content-length" ≠ [] then
    match lengthOfAll? (h.all "content-length") with
    | some n => if n ≤ maxLength then .ok (.length n) else .error .tooLarge
    | none => .error .contentLength
  else .ok .untilClose

def hexByte? (b : UInt8) : Option Nat :=
  let n := b.toNat
  if 0x30 ≤ n ∧ n ≤ 0x39 then some (n - 0x30)
  else if 0x61 ≤ n ∧ n ≤ 0x66 then some (n - 0x57)
  else if 0x41 ≤ n ∧ n ≤ 0x46 then some (n - 0x37)
  else none

/-- How many bytes are too many for the extensions of a body. -/
def maxExtensions : Nat := 16384

/-- What a size line says: the size of a chunk, and how many bytes extensions may have from
there on. -/
structure SizeLine where
  size : Nat
  room : Nat
  deriving DecidableEq, Repr

/-- The line feed that ends a size line. -/
def sizeEnd (s : SizeLine) : Bytes → BodyReading SizeLine
  | [] => .more .cutInLine
  | b :: bs => if b = 0x0A then .done s bs else .failed .badSizeEnd

/-- An extension of a size line says nothing to us. -/
def sizeExtension (n room : Nat) : Bytes → BodyReading SizeLine
  | [] => .more .cutInLine
  | b :: bs =>
    if b = 0x0D then sizeEnd ⟨n, room⟩ bs
    else if b = 0x0A then .failed .breakInExtension
    else if room ≤ 1 then .failed .longExtensions
    else sizeExtension n (room - 1) bs

/-- Blanks behind the digits of a size. -/
def sizeBlanks (n room : Nat) : Bytes → BodyReading SizeLine
  | [] => .more .cutInLine
  | b :: bs =>
    if isBlankByte b then sizeBlanks n room bs
    else if b = 0x3B then sizeExtension n room bs
    else if b = 0x0D then sizeEnd ⟨n, room⟩ bs
    else .failed .badSizeBlank

/-- More digits of a size. -/
def sizeDigits (n room : Nat) : Bytes → BodyReading SizeLine
  | [] => .more .cutInLine
  | b :: bs =>
    match hexByte? b with
    | some d =>
      if 16 * n + d < UInt64.size then sizeDigits (16 * n + d) room bs else .failed .hugeSize
    | none =>
      if isBlankByte b then sizeBlanks n room bs
      else if b = 0x3B then sizeExtension n room bs
      else if b = 0x0D then sizeEnd ⟨n, room⟩ bs
      else .failed .badSize

/-- A size line. -/
def readSize (room : Nat) : Bytes → BodyReading SizeLine
  | [] => .more .cutInLine
  | b :: bs =>
    match hexByte? b with
    | some d => sizeDigits d room bs
    | none => .failed .noSize

/-- The line break behind the data of a chunk. -/
def dataEnd : Bytes → BodyReading Unit
  | [] => .more .cutInLine
  | b :: bs =>
    if b = 0x0D then
      match bs with
      | [] => .more .cutInLine
      | c :: cs => if c = 0x0A then .done () cs else .failed .badDataFeed
    else .failed .badDataReturn

/-- What follows the last chunk: lines, which are passed over, up to an empty one. -/
def readTrailer (inLine : Bool) : Bytes → BodyReading Unit
  | [] => .more .cutInLine
  | b :: bs =>
    if b = 0x0D then
      match bs with
      | [] => .more .cutInLine
      | c :: cs =>
        if inLine then if c = 0x0A then readTrailer false cs else .failed .badTrailerEnd
        else if c = 0x0A then .done () cs else .failed .badEnd
    else readTrailer true bs

variable {s : SizeLine} {n room : Nat} {bs rest : Bytes}

theorem length_sizeEnd {t : SizeLine} (h : sizeEnd t bs = .done s rest) :
    rest.length < bs.length := by
  unfold sizeEnd at h
  split at h
  · simp at h
  · split at h
    · injection h with _ h
      simp [h]
    · simp at h

theorem length_sizeExtension (h : sizeExtension n room bs = .done s rest) :
    rest.length < bs.length := by
  fun_induction sizeExtension n room bs with
  | case1 => simp at h
  | case2 => exact Nat.lt_succ_of_lt (length_sizeEnd h)
  | case3 => simp at h
  | case4 => simp at h
  | case5 _ _ _ _ _ _ ih => exact Nat.lt_succ_of_lt (ih h)

theorem length_sizeBlanks (h : sizeBlanks n room bs = .done s rest) :
    rest.length < bs.length := by
  fun_induction sizeBlanks n room bs with
  | case1 => simp at h
  | case2 _ _ _ ih => exact Nat.lt_succ_of_lt (ih h)
  | case3 => exact Nat.lt_succ_of_lt (length_sizeExtension h)
  | case4 => exact Nat.lt_succ_of_lt (length_sizeEnd h)
  | case5 => simp at h

theorem length_sizeDigits (h : sizeDigits n room bs = .done s rest) :
    rest.length < bs.length := by
  fun_induction sizeDigits n room bs with
  | case1 => simp at h
  | case2 _ _ _ _ _ _ ih => exact Nat.lt_succ_of_lt (ih h)
  | case3 => simp at h
  | case4 => exact Nat.lt_succ_of_lt (length_sizeBlanks h)
  | case5 => exact Nat.lt_succ_of_lt (length_sizeExtension h)
  | case6 => exact Nat.lt_succ_of_lt (length_sizeEnd h)
  | case7 => simp at h

theorem length_readSize (h : readSize room bs = .done s rest) : rest.length < bs.length := by
  unfold readSize at h
  split at h
  · simp at h
  · split at h
    · exact Nat.lt_succ_of_lt (length_sizeDigits h)
    · simp at h

theorem length_dataEnd (h : dataEnd bs = .done () rest) :
    rest.length < bs.length := by
  unfold dataEnd at h
  repeat' split at h
  all_goals simp at h
  subst h
  simp only [List.length_cons]
  omega

/-- The data of all chunks. -/
def readChunks (room : Nat) (bs : Bytes) : BodyReading Bytes :=
  match _hs : readSize room bs with
  | .failed e => .failed e
  | .more e => .more e
  | .done ⟨n, room⟩ rest =>
    if n = 0 then (readTrailer false rest).map fun _ => []
    else if rest.length < n then .more .cutShort
    else
      match _hd : dataEnd (rest.drop n) with
      | .failed e => .failed e
      | .more e => .more e
      | .done _ later => (readChunks room later).map (rest.take n ++ ·)
termination_by bs.length
decreasing_by
  have := length_readSize _hs
  have := length_dataEnd _hd
  simp at this
  omega

/-- A body behind its head. `closed` says that no more bytes will come. -/
def readBody (f : Framing) (closed : Bool) (bs : Bytes) : BodyReading Bytes :=
  match f with
  | .length n => if n ≤ bs.length then .done (bs.take n) (bs.drop n) else .more .cutShort
  | .chunked => readChunks maxExtensions bs
  | .untilClose => if closed then .done bs [] else .more .cutShort

end Liveness.Http
