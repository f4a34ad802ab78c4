import Liveness.Http.Body
import Liveness.Proofs.Http.Requests

/-! Bodies in chunks, as they may be written: sizes in any spelling, with extensions, and a
trailer behind them all. However a body is cut into chunks, its bytes are read back. -/

namespace Liveness.Http

open Text

/-- The byte of a hexadecimal digit, which may be a small or a capital letter. -/
def IsHexDigit (d : Nat) (b : UInt8) : Prop :=
  d < 16 ∧ (b = (Nat.digitChar d).toNat.toUInt8 ∨ b = (Nat.digitChar d).toUpper.toNat.toUInt8)

/-- Hexadecimal digits of a number, zeros in front of it among them. -/
inductive IsHex : Nat → Bytes → Prop
  | digit {d : Nat} {b : UInt8} : IsHexDigit d b → IsHex d [b]
  | more {n d : Nat} {bs : Bytes} {b : UInt8} :
      IsHex n bs → IsHexDigit d b → IsHex (16 * n + d) (bs ++ [b])

theorem hexByte?_of_isHexDigit {d : Nat} {b : UInt8} (h : IsHexDigit d b) :
    hexByte? b = some d := by
  obtain ⟨hd, h⟩ := h
  have key : ∀ d < 16, hexByte? (Nat.digitChar d).toNat.toUInt8 = some d ∧
      hexByte? (Nat.digitChar d).toUpper.toNat.toUInt8 = some d := by decide
  rcases h with h | h
  · rw [h]
    exact (key d hd).1
  · rw [h]
    exact (key d hd).2

theorem readSize_of_isHex {n : Nat} {bs : Bytes} (h : IsHex n bs) (hn : n < UInt64.size)
    (room : Nat) (rest : Bytes) : readSize room (bs ++ rest) = sizeDigits n room rest := by
  induction h generalizing rest with
  | digit hb => rw [List.singleton_append, readSize, hexByte?_of_isHexDigit hb]
  | more _ hb ih =>
    -- what has been read so far is not too large since the whole is not
    rw [List.append_assoc, ih (by omega), List.singleton_append, sizeDigits,
      hexByte?_of_isHexDigit hb]
    exact if_pos hn

/-- What may stand behind a size: blanks, and a text of so many bytes behind a semicolon that
does not break the line. -/
inductive IsExtension : Nat → Bytes → Prop
  | blanks {bs : Bytes} : (∀ b ∈ bs, isBlankByte b = true) → IsExtension 0 bs
  | text {bs ext : Bytes} : (∀ b ∈ bs, isBlankByte b = true) → 0x0D ∉ ext → 0x0A ∉ ext →
      IsExtension ext.length (bs ++ 0x3B :: ext)

section

variable {n k room : Nat} {bs ext rest : Bytes}

theorem sizeExtension_of_line (hr : 0x0D ∉ ext) (hf : 0x0A ∉ ext) (hroom : ext.length < room) :
    sizeExtension n room (ext ++ (Request.crlf ++ rest)) =
      .done ⟨n, room - ext.length⟩ rest := by
  induction ext generalizing room with
  | nil => rfl
  | cons b ext ih =>
    rw [List.mem_cons, not_or] at hr hf
    rw [List.length_cons] at hroom ⊢
    rw [List.cons_append, sizeExtension, if_neg (Ne.symm hr.1), if_neg (Ne.symm hf.1),
      if_neg (by omega), ih hr.2 hf.2 (by omega), Nat.sub_sub, Nat.add_comm 1]

theorem sizeBlanks_of_blanks (h : ∀ b ∈ bs, isBlankByte b = true) :
    sizeBlanks n room (bs ++ rest) = sizeBlanks n room rest := by
  induction bs with
  | nil => rfl
  | cons b bs ih =>
    rw [List.forall_mem_cons] at h
    rw [List.cons_append, sizeBlanks, if_pos h.1]
    exact ih h.2

/-- No blank is a digit, so that digits end where blanks begin. -/
theorem hexByte?_of_isBlank {b : UInt8} (h : isBlankByte b = true) : hexByte? b = none := by
  simp only [isBlankByte, Bool.or_eq_true, decide_eq_true_eq] at h
  rcases h with rfl | rfl <;> decide

theorem sizeDigits_of_blanks (h : ∀ b ∈ bs, isBlankByte b = true)
    (hrest : sizeDigits n room rest = sizeBlanks n room rest) :
    sizeDigits n room (bs ++ rest) = sizeBlanks n room rest := by
  cases bs with
  | nil => exact hrest
  | cons b bs =>
    rw [List.forall_mem_cons] at h
    rw [List.cons_append, sizeDigits, hexByte?_of_isBlank h.1]
    exact (if_pos h.1).trans (sizeBlanks_of_blanks h.2)

theorem sizeDigits_of_isExtension (h : IsExtension k ext) (hroom : k < room) :
    sizeDigits n room (ext ++ (Request.crlf ++ rest)) = .done ⟨n, room - k⟩ rest := by
  cases h with
  | blanks hblank =>
    rw [sizeDigits_of_blanks hblank rfl]
    rfl
  | text hblank hr hf =>
    rw [List.append_assoc, List.cons_append, sizeDigits_of_blanks hblank rfl]
    exact sizeExtension_of_line hr hf hroom

/-- A size line, whatever its spelling. -/
theorem readSize_line (h : IsHex n bs) (hn : n < UInt64.size) (he : IsExtension k ext)
    (hroom : k < room) :
    readSize room (bs ++ (ext ++ (Request.crlf ++ rest))) = .done ⟨n, room - k⟩ rest := by
  rw [readSize_of_isHex h hn]
  exact sizeDigits_of_isExtension he hroom

theorem readTrailer_line {line : Bytes} (h : 0x0D ∉ line) :
    readTrailer true (line ++ (Request.crlf ++ rest)) = readTrailer false rest := by
  induction line with
  | nil => rfl
  | cons b line ih =>
    rw [List.mem_cons, not_or] at h
    rw [List.cons_append, readTrailer.eq_def]
    exact (if_neg (Ne.symm h.1)).trans (ih h.2)

theorem readTrailer_unlines {lines : List Bytes}
    (h : ∀ line ∈ lines, line ≠ [] ∧ 0x0D ∉ line) :
    readTrailer false (unlines lines ++ rest) = .done () rest := by
  induction lines with
  | nil => rfl
  | cons line lines ih =>
    rw [List.forall_mem_cons] at h
    obtain ⟨⟨hne, hr⟩, hothers⟩ := h
    obtain ⟨b, line, rfl⟩ := List.exists_cons_of_ne_nil hne
    rw [List.mem_cons, not_or] at hr
    rw [unlines_cons, List.append_assoc, List.append_assoc, List.cons_append, readTrailer.eq_def]
    refine (if_neg (Ne.symm hr.1)).trans ?_
    rw [readTrailer_line hr.2]
    exact ih hothers

end

/-- A text of chunks with such data, none of it empty but that of the last chunk, and with so many
bytes of extensions. The length of a chunk fits a word. -/
inductive IsChunked : Nat → List Bytes → Bytes → Prop
  | last {k : Nat} {size ext : Bytes} {lines : List Bytes} : IsHex 0 size → IsExtension k ext →
      (∀ line ∈ lines, line ≠ [] ∧ 0x0D ∉ line) →
      IsChunked k [] (size ++ (ext ++ (Request.crlf ++ unlines lines)))
  | chunk {j k : Nat} {size ext data text : Bytes} {parts : List Bytes} :
      IsHex data.length size → IsExtension j ext → data ≠ [] → data.length < UInt64.size →
      IsChunked k parts text →
      IsChunked (j + k) (data :: parts)
        (size ++ (ext ++ (Request.crlf ++ (data ++ (Request.crlf ++ text)))))

/-- The data of chunks come back in one piece, and what stands behind them is left. -/
theorem readChunks_of_isChunked {k : Nat} {parts : List Bytes} {text : Bytes}
    (h : IsChunked k parts text) {room : Nat} (hroom : k < room) (rest : Bytes) :
    readChunks room (text ++ rest) = .done parts.flatten rest := by
  -- the room that a chunk leaves is enough for the extensions behind it
  induction h generalizing room with
  | last hsize hext hlines =>
    simp only [List.append_assoc]
    rw [readChunks, readSize_line hsize (by decide) hext hroom]
    simp only [if_true]
    rw [readTrailer_unlines hlines]
    rfl
  | @chunk j k size ext data text parts hsize hext hne hlen _ ih =>
    simp only [List.append_assoc]
    rw [readChunks, readSize_line hsize hlen hext (by omega)]
    have hend : dataEnd ((data ++ (Request.crlf ++ (text ++ rest))).drop data.length) =
        .done () (text ++ rest) := by
      rw [List.drop_left]
      rfl
    have hzero : data.length ≠ 0 := fun h => hne (List.length_eq_zero_iff.1 h)
    have henough : ¬ (data ++ (Request.crlf ++ (text ++ rest))).length < data.length := by
      rw [List.length_append]
      omega
    simp only [hzero, henough, if_false]
    rw [hend]
    dsimp only
    rw [ih (by omega), List.take_left]
    rfl

end Liveness.Http
