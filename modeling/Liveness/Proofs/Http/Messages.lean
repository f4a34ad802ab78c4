import Liveness.Proofs.Http.Chunks
import Liveness.Proofs.Http.Prefix

/-! Responses as servers write them: a status line, header lines, and a body whose end is told
in one of three ways. What is read of such a text is what it says. -/

namespace Liveness.Http

open Text

/-- The decimal digits of a number. -/
def decimal (n : Nat) : Bytes := (Nat.toDigits 10 n).map (·.toNat.toUInt8)

theorem toNat_digitByte {c : Char} (h : c.isDigit = true) : c.toNat.toUInt8.toNat = c.toNat := by
  simp only [Char.isDigit, Bool.and_eq_true, decide_eq_true_eq, UInt32.le_iff_toNat_le] at h
  have hle : c.toNat ≤ 57 := h.2
  rw [UInt8.toNat_ofNat']
  omega

theorem isDigitByte_of_mem_decimal {n : Nat} {b : UInt8} (h : b ∈ decimal n) :
    isDigitByte b = true := by
  obtain ⟨c, hc, rfl⟩ := List.mem_map.1 h
  have hdigit : c.isDigit = true := Nat.isDigit_of_mem_toDigits (by decide) (by decide) hc
  rw [isDigitByte, toNat_digitByte hdigit]
  simp only [Char.isDigit, UInt32.le_iff_toNat_le] at hdigit
  exact hdigit

theorem decimal_ne_nil (n : Nat) : decimal n ≠ [] := by
  rw [decimal, ne_eq, List.map_eq_nil_iff]
  exact Nat.toDigits_ne_nil

theorem foldl_decimal (n : Nat) :
    (decimal n).foldl (fun m b => 10 * m + (b.toNat - 0x30)) 0 = n := by
  have hchars : (Nat.toDigits 10 n).foldl (fun m c => 10 * m + (c.toNat - 0x30)) 0 = n :=
    Nat.ofDigitChars_ten_toDigits
  rw [decimal, List.foldl_map]
  refine Eq.trans (List.foldl_ext _ _ _ fun m c hc => ?_) hchars
  rw [toNat_digitByte (Nat.isDigit_of_mem_toDigits (by decide) (by decide) hc)]

theorem length_decimal {n : Nat} (hlow : 100 ≤ n) (hhigh : n < 1000) :
    (decimal n).length = 3 := by
  rw [decimal, List.length_map, Nat.toDigits_eq_if (by decide), if_neg (by omega),
    Nat.toDigits_eq_if (by decide), if_neg (by omega), Nat.toDigits_eq_if (by decide),
    if_pos (by omega)]
  rfl

/-- A number that is small enough for a length is read as one. -/
theorem lengthOf?_decimal {n : Nat} (h : n < UInt64.size) : lengthOf? (decimal n) = some n := by
  have hall : (decimal n).all isDigitByte = true :=
    List.all_eq_true.2 fun b hb => isDigitByte_of_mem_decimal hb
  rw [lengthOf?, foldl_decimal, hall]
  simp [decimal_ne_nil, h]

theorem readDigits_append {ds : Bytes} (h : ∀ b ∈ ds, isDigitByte b = true) (n : Nat)
    (rest : Bytes) :
    readDigits n ds.length (ds ++ rest) =
      .done (ds.foldl (fun m b => 10 * m + (b.toNat - 0x30)) n) rest := by
  induction ds generalizing n with
  | nil => rfl
  | cons b ds ih =>
    rw [List.forall_mem_cons] at h
    rw [List.length_cons, List.cons_append, readDigits, if_pos h.1]
    exact ih h.2 _

theorem readLine_append (fault : HeadFault) {line : Bytes} (h : IsLine line) (rest : Bytes) :
    readLine fault (line ++ (Request.crlf ++ rest)) = .done line rest := by
  induction line with
  | nil => rfl
  | cons b line ih =>
    have hb : isValueByte b = true := h b List.mem_cons_self
    have hfeed : b ≠ 0x0A := fun e => absurd hb (by rw [e]; decide)
    have hreturn : b ≠ 0x0D := fun e => absurd hb (by rw [e]; decide)
    rw [List.cons_append, readLine.eq_def]
    simp only [hfeed, hreturn, hb, if_false, if_true]
    rw [ih fun c hc => h c (List.mem_cons_of_mem b hc)]
    rfl

/-- A header line: a name in letters of any case, and a value with blanks around it. -/
structure Field where
  name : Bytes
  value : Bytes
  named : name ≠ []
  short : name.length ≤ maxName
  nameBytes : ∀ b ∈ name, isNameByte b = true
  valueBytes : IsLine value

namespace Field

def line (f : Field) : Bytes := f.name ++ 0x3A :: f.value

/-- What the line says. -/
def header (f : Field) : Header := ⟨nameOfBytes f.name, trimBytes f.value⟩

theorem readName_append {name : Bytes} (h : ∀ b ∈ name, isNameByte b = true) (rest : Bytes) :
    readName (name ++ 0x3A :: rest) = .done name rest := by
  induction name with
  | nil => rfl
  | cons b name ih =>
    rw [List.forall_mem_cons] at h
    rw [List.cons_append, readName, if_pos h.1, ih h.2]
    rfl

theorem readHeader_line (f : Field) (rest : Bytes) :
    readHeader (f.line ++ (Request.crlf ++ rest)) = .done f.header rest := by
  rw [line, List.append_assoc, readHeader, List.cons_append, readName_append f.nameBytes]
  change (readLine .header _).map _ = _
  rw [readLine_append _ f.valueBytes]
  rfl

/-- A line begins with a byte of a name, so that it is not taken for the end. -/
theorem endOr_line (f : Field) (rest : Bytes) (other : HeadReading (List Header)) :
    endOr (f.line ++ rest) other = other := by
  obtain ⟨b, name, hname⟩ := List.exists_cons_of_ne_nil f.named
  have hb : isNameByte b = true := f.nameBytes b (hname ▸ List.mem_cons_self)
  have hend : ¬ (b = 0x0A ∨ b = 0x0D) := by
    intro h
    rcases h with h | h <;> exact absurd hb (by rw [h]; decide)
  rw [line, hname, List.cons_append, List.cons_append, endOr]
  exact (if_neg hend).trans (if_neg (by simp [hb]))

theorem readHeaders_unlines (fields : List Field) {room : Nat} (h : fields.length ≤ room)
    (rest : Bytes) :
    readHeaders room (unlines (fields.map line) ++ rest) = .done (fields.map header) rest := by
  induction fields generalizing room with
  | nil => cases room <;> rfl
  | cons f fields ih =>
    cases room with
    | zero => cases h
    | succ room =>
      rw [List.map_cons, unlines_cons, List.append_assoc, List.append_assoc, readHeaders,
        endOr_line, readHeader_line]
      change (readHeaders room _).map _ = _
      rw [ih (Nat.le_of_succ_le_succ h)]
      rfl

end Field

/-- The head of a response as it is written. -/
structure WrittenHead where
  current : Bool
  status : Nat
  /-- Nothing, or a blank and what it says in words. -/
  reason : Bytes
  fields : List Field
  threeDigits : 100 ≤ status ∧ status < 1000
  reasonBytes : IsLine reason
  reasonBlank : ∀ b, reason.head? = some b → b = 0x20
  atMostHundred : fields.length ≤ maxHeaders

namespace WrittenHead

variable (w : WrittenHead)

def encode : Bytes :=
  versionText w.current ++ (0x20 :: (decimal w.status ++ (w.reason ++ (Request.crlf ++
    unlines (w.fields.map Field.line)))))

def head : Head := ⟨w.current, w.status, w.fields.map Field.header⟩

theorem skipEmptyLines_encode (rest : Bytes) :
    skipEmptyLines (w.encode ++ rest) = .done () (w.encode ++ rest) := by
  rw [encode]
  cases w.current <;> rfl

theorem readVersion_append (current : Bool) (rest : Bytes) :
    readVersion (versionText current ++ rest) = .done current rest := by
  have hlen : ∀ current, (versionText current).length = 8 := by decide
  rw [readVersion, if_pos (by rw [List.length_append, hlen]; omega), ← hlen current,
    List.take_left, List.drop_left]
  cases current <;> rfl

theorem readStatus_append (rest : Bytes) :
    readStatus (0x20 :: (decimal w.status ++ rest)) = .done w.status rest := by
  have hdigits := readDigits_append (fun b hb => isDigitByte_of_mem_decimal (n := w.status) hb) 0
    rest
  rw [length_decimal w.threeDigits.1 w.threeDigits.2, foldl_decimal] at hdigits
  exact hdigits

theorem readReason_append (rest : Bytes) :
    readReason (w.reason ++ (Request.crlf ++ rest)) = .done () rest := by
  have hline := readLine_append .status w.reasonBytes rest
  cases hr : w.reason with
  | nil => rfl
  | cons b reason =>
    have hb : b = 0x20 := w.reasonBlank b (by rw [hr]; rfl)
    rw [hr] at hline
    rw [List.cons_append, readReason, if_pos (.inl hb), ← List.cons_append, hline]
    rfl

/-- A head is read from its text, whatever stands behind it. -/
theorem readLines_encode (rest : Bytes) :
    readLines (w.encode ++ rest) = .done w.head rest := by
  have htext : w.encode ++ rest = versionText w.current ++ (0x20 :: (decimal w.status ++
      (w.reason ++ (Request.crlf ++ (unlines (w.fields.map Field.line) ++ rest))))) := by
    simp only [encode, List.append_assoc, List.cons_append]
  have hskip := w.skipEmptyLines_encode rest
  rw [htext] at hskip ⊢
  simp only [readLines, Reading.bind_eq_done_iff, Reading.map_eq_done_iff]
  exact ⟨(), _, hskip, w.current, _, readVersion_append w.current _, w.status, _,
    w.readStatus_append _, (), _, w.readReason_append _, w.fields.map Field.header,
    Field.readHeaders_unlines w.fields w.atMostHundred rest, rfl⟩

theorem fault?_head : w.head.fault? = none := by
  have hnames : ¬ w.head.headers.any (fun g => maxName < g.name.length) = true := by
    rw [List.any_eq_true]
    rintro ⟨g, hg, hlong⟩
    obtain ⟨f, -, rfl⟩ := List.mem_map.1 hg
    have hlen : (nameOfBytes f.name).length = f.name.length := by simp [nameOfBytes]
    rw [decide_eq_true_eq, Field.header, hlen] at hlong
    exact absurd f.short (Nat.not_le.2 hlong)
  have hstatus : ¬ w.head.status < 100 := Nat.not_lt.2 w.threeDigits.1
  rw [Head.fault?, if_neg hstatus, if_neg hnames]

theorem readHead_encode (h : w.encode.length ≤ maxHead) (rest : Bytes) :
    readHead (w.encode ++ rest) = .done w.head rest := by
  have halone : readHead w.encode = .done w.head [] := by
    have hlines := w.readLines_encode []
    rw [List.append_nil] at hlines
    rw [readHead, hlines, List.take_of_length_le h, hlines]
    simp [Reading.isMore, Reading.bind, w.fault?_head]
  exact readHead_stable _ _ _ halone rest

end WrittenHead

/-- The text of a body behind a head, and whether the connection is closed behind it: its end is
told by a length, by chunks, or by nothing but the end of the connection. -/
inductive Frames (h : Head) (body : Bytes) : Bytes → Bool → Prop
  | length {closes : Bool} : h.all "transfer-encoding" = [] →
      h.all "content-length" = [decimal body.length] → body.length ≤ maxLength →
      Frames h body body closes
  | chunks {closes : Bool} {k : Nat} {parts : List Bytes} {text : Bytes} : h.current = true →
      h.all "transfer-encoding" = [Utf8.encode "chunked"] → IsChunked k parts text →
      k < maxExtensions → parts.flatten = body → Frames h body text closes
  | close : h.all "transfer-encoding" = [] → h.all "content-length" = [] →
      Frames h body body true

theorem trimBytes_of_not_blank {bs : Bytes} (h : ∀ b ∈ bs, isBlankByte b = false) :
    trimBytes bs = bs := by
  have hdrop : ∀ cs : Bytes, (∀ b ∈ cs, isBlankByte b = false) → cs.dropWhile isBlankByte = cs := by
    intro cs hcs
    cases cs with
    | nil => rfl
    | cons b cs => exact List.dropWhile_cons_of_neg (by simp [hcs b])
  rw [trimBytes, hdrop bs h, hdrop _ fun b hb => h b (List.mem_reverse.1 hb), List.reverse_reverse]

theorem listValue?_decimal (n : Nat) : listValue? (decimal n) = some [decimal n] := by
  have hdigit : ∀ b ∈ decimal n, 0x30 ≤ b.toNat ∧ b.toNat ≤ 0x39 := by
    intro b hb
    have h := isDigitByte_of_mem_decimal hb
    rw [isDigitByte, Bool.and_eq_true, decide_eq_true_eq, decide_eq_true_eq] at h
    exact h
  have hvisible : (decimal n).all
      (fun b => (0x20 ≤ b.toNat && b.toNat < 0x7f) || b.toNat = 0x09) = true := by
    refine List.all_eq_true.2 fun b hb => ?_
    have h := hdigit b hb
    simp
    omega
  have hcomma : (decimal n).splitOn 0x2C = [decimal n] := by
    refine List.splitOn_eq_singleton fun hb => ?_
    have h := hdigit _ hb
    exact absurd h.1 (by decide)
  have hblank : ∀ b ∈ decimal n, isBlankByte b = false := by
    intro b hb
    have h := hdigit b hb
    rw [isBlankByte, Bool.or_eq_false_iff, decide_eq_false_iff_not, decide_eq_false_iff_not]
    constructor <;> rintro rfl <;> revert h <;> decide
  rw [listValue?, if_pos hvisible, listParts, hcomma]
  simp only [List.map_cons, List.map_nil, trimBytes_of_not_blank hblank]

theorem lengthOfAll?_decimal {n : Nat} (h : n < UInt64.size) :
    lengthOfAll? [decimal n] = some n := by
  have hvalues : ([decimal n].mapM listValue?).map List.flatten = some [decimal n] := by
    simp [listValue?_decimal]
  rw [lengthOfAll?, hvalues]
  exact lengthOf?_decimal h

theorem isChunked_of_all {h : Head} (hall : h.all "transfer-encoding" = [Utf8.encode "chunked"]) :
    isChunked h = true := by
  rw [isChunked, hall]
  decide

/-- A status that has a body. -/
def HasBody (status : Nat) : Prop := 200 ≤ status ∧ status ≠ 204 ∧ status ≠ 304

instance : DecidablePred HasBody := fun status =>
  inferInstanceAs (Decidable (200 ≤ status ∧ status ≠ 204 ∧ status ≠ 304))

/-- The three ways of telling the end of a body agree on what it is. -/
theorem readBody_of_frames {h : Head} {body text : Bytes} {closes : Bool}
    (hf : Frames h body text closes) (hs : HasBody h.status) :
    ∃ framing, h.framing = .ok framing ∧ readBody framing closes text = .done body [] := by
  have hbody : ¬ (h.status = 101 ∨ h.status = 204 ∨ h.status = 304) := by
    obtain ⟨hlow, h204, h304⟩ := hs
    omega
  rw [Head.framing, if_neg hbody]
  cases hf with
  | length htransfer hlength hlen =>
    have hsize : maxLength < UInt64.size := by decide
    refine ⟨.length body.length, ?_, ?_⟩
    · rw [htransfer, hlength, lengthOfAll?_decimal (by omega)]
      simp [hlen]
    · rw [readBody, if_pos (Nat.le_refl _), List.take_length, List.drop_length]
  | @chunks closes k parts text hcurrent htransfer hchunked hroom hparts =>
    refine ⟨.chunked, ?_, ?_⟩
    · rw [htransfer, hcurrent, isChunked_of_all htransfer]
      rfl
    · have hread := readChunks_of_isChunked hchunked hroom []
      rw [List.append_nil, hparts] at hread
      exact hread
  | close htransfer hlength =>
    refine ⟨.untilClose, ?_, rfl⟩
    rw [htransfer, hlength]
    rfl

/-- A response proper is read from its text. -/
theorem WrittenHead.readFinalHead_encode (w : WrittenHead) (h : w.encode.length ≤ maxHead)
    (hs : HasBody w.status) {framing : Framing} (hf : w.head.framing = .ok framing)
    (rest : Bytes) : readFinalHead (w.encode ++ rest) = .done (w.head, framing) rest := by
  have hfinal : w.head.isInterim = false := by
    have hlow : ¬ w.head.status < 200 := Nat.not_lt.2 hs.1
    simp [Head.isInterim, hlow]
  rw [readFinalHead, w.readHead_encode h]
  simp [hfinal, hf]

end Liveness.Http
