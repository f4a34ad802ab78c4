import Liveness.Http.Wire

/-! Messages that come in pieces. What a reader has read stays read whatever else comes, so
a message that ends where its text ends is not found in a part of that text. -/

namespace Liveness.Http

open Text

variable {ε ε' α β : Type}

/-- A reader that stays with what it has read when more bytes come. -/
def Stable (read : Bytes → Reading ε α) : Prop :=
  ∀ bs a rest, read bs = .done a rest → ∀ more, read (bs ++ more) = .done a (rest ++ more)

namespace Reading

theorem bind_eq_done_iff {r : Reading ε α} {k : α → Bytes → Reading ε β} {b : β}
    {rest : Bytes} :
    r.bind k = .done b rest ↔ ∃ a mid, r = .done a mid ∧ k a mid = .done b rest := by
  cases r with
  | done a mid =>
    constructor
    · intro h
      exact ⟨a, mid, rfl, h⟩
    · rintro ⟨_, _, ⟨⟩, h⟩
      exact h
  | more e => simp [bind]
  | failed e => simp [bind]

theorem map_eq_done_iff {r : Reading ε α} {f : α → β} {b : β} {rest : Bytes} :
    r.map f = .done b rest ↔ ∃ a, r = .done a rest ∧ f a = b := by
  cases r with
  | done a mid =>
    constructor
    · rintro ⟨⟩
      exact ⟨a, rfl, rfl⟩
    · rintro ⟨_, ⟨⟩, rfl⟩
      rfl
  | more e => simp [map]
  | failed e => simp [map]

end Reading

open Reading

theorem Stable.bind {read : Bytes → Reading ε α} {k : α → Bytes → Reading ε β}
    (hread : Stable read) (hk : ∀ a, Stable (k a)) : Stable fun bs => (read bs).bind k := by
  intro bs b rest h more
  obtain ⟨a, mid, ha, hb⟩ := bind_eq_done_iff.1 h
  exact bind_eq_done_iff.2 ⟨a, mid ++ more, hread bs a mid ha more, hk a mid b rest hb more⟩

theorem Stable.map {read : Bytes → Reading ε α} (hread : Stable read) (f : α → β) :
    Stable fun bs => (read bs).map f := by
  intro bs b rest h more
  obtain ⟨a, ha, hb⟩ := map_eq_done_iff.1 h
  exact map_eq_done_iff.2 ⟨a, hread bs a rest ha more, hb⟩

theorem skipEmptyLines_stable : Stable skipEmptyLines := by
  intro bs
  fun_induction skipEmptyLines bs with
  | case1 => rintro _ _ ⟨⟩
  | case2 bs ih =>
    intro a rest h more
    rw [List.cons_append, skipEmptyLines.eq_def]
    exact ih a rest h more
  | case3 => rintro _ _ ⟨⟩
  | case4 cs _ ih =>
    intro a rest h more
    rw [List.cons_append, List.cons_append, skipEmptyLines.eq_def]
    exact ih a rest h more
  | case5 => rintro _ _ ⟨⟩
  | case6 b bs h₁ h₂ =>
    rintro _ _ ⟨⟩ more
    rw [List.cons_append, skipEmptyLines.eq_def]
    simp [h₁, h₂]

theorem readLine_stable (fault : HeadFault) : Stable (readLine fault) := by
  intro bs
  fun_induction readLine fault bs with
  | case1 => rintro _ _ ⟨⟩
  | case2 bs =>
    rintro _ _ ⟨⟩ more
    simp [readLine]
  | case3 => rintro _ _ ⟨⟩
  | case4 cs =>
    rintro _ _ ⟨⟩ more
    simp [readLine]
  | case5 => rintro _ _ ⟨⟩
  | case6 b bs h₁ h₂ hb ih =>
    intro a rest h more
    obtain ⟨line, hl, rfl⟩ := map_eq_done_iff.1 h
    simp [readLine, h₁, h₂, hb, ih line rest hl more, Reading.map]
  | case7 => rintro _ _ ⟨⟩

theorem readVersion_stable : Stable readVersion := by
  intro bs a rest h more
  rw [readVersion] at h
  split at h
  · next hlen =>
    have htake : (bs ++ more).take 8 = bs.take 8 := List.take_append_of_le_length hlen
    have hdrop : (bs ++ more).drop 8 = bs.drop 8 ++ more := List.drop_append_of_le_length hlen
    rw [readVersion, if_pos (by simp; omega), htake, hdrop]
    split at h
    · next h11 =>
      cases h
      rw [if_pos h11]
    · next h11 =>
      split at h
      · next h10 =>
        cases h
        rw [if_neg h11, if_pos h10]
      · cases h
  · split at h <;> cases h

theorem readDigits_stable (n k : Nat) : Stable (readDigits n k) := by
  intro bs
  fun_induction readDigits n k bs with
  | case1 =>
    rintro _ _ ⟨⟩ more
    rw [readDigits]
  | case2 => rintro _ _ ⟨⟩
  | case3 n k b bs hb ih => simpa [readDigits, hb] using ih
  | case4 => rintro _ _ ⟨⟩

theorem readStatus_stable : Stable readStatus := by
  intro bs a rest h more
  match bs with
  | [] => cases h
  | b :: bs =>
    rw [readStatus] at h
    rw [List.cons_append, readStatus]
    split at h
    · next hb =>
      rw [if_pos hb]
      exact readDigits_stable 0 3 bs a rest h more
    · cases h

theorem readReason_stable : Stable readReason := by
  intro bs a rest h more
  match bs with
  | [] => cases h
  | b :: bs =>
    rw [readReason] at h
    rw [List.cons_append, readReason]
    split at h
    · next hb =>
      rw [if_pos hb]
      exact (readLine_stable .status).map _ (b :: bs) a rest h more
    · cases h

theorem readName_stable : Stable readName := by
  intro bs
  fun_induction readName bs with
  | case1 => rintro _ _ ⟨⟩
  | case2 b bs hb ih =>
    intro a rest h more
    obtain ⟨name, hn, rfl⟩ := map_eq_done_iff.1 h
    simp [readName, hb, ih name rest hn more, Reading.map]
  | case3 bs hb =>
    rintro _ _ ⟨⟩ more
    simp [readName, hb]
  | case4 => rintro _ _ ⟨⟩

theorem readHeader_stable : Stable readHeader :=
  readName_stable.bind fun _ => (readLine_stable .header).map _

theorem endOr_stable {header : Bytes → HeadReading (List Header)} (hh : Stable header) :
    Stable fun bs => endOr bs (header bs) := by
  intro bs a rest h more
  match bs with
  | [] => cases h
  | b :: bs =>
    dsimp only [endOr] at h
    dsimp only [List.cons_append, endOr]
    split at h
    · next hb =>
      rw [if_pos hb]
      exact (readLine_stable .header).map _ (b :: bs) a rest h more
    · next hb =>
      rw [if_neg hb]
      split at h
      · cases h
      · next hn =>
        rw [if_neg hn]
        exact hh (b :: bs) a rest h more

theorem readHeaders_stable (room : Nat) : Stable (readHeaders room) := by
  induction room with
  | zero => exact endOr_stable fun _ _ _ h => nomatch h
  | succ room ih => exact endOr_stable (readHeader_stable.bind fun _ => ih.map _)

theorem readLines_stable : Stable readLines :=
  skipEmptyLines_stable.bind fun _ =>
  readVersion_stable.bind fun _ =>
  readStatus_stable.bind fun _ =>
  readReason_stable.bind fun _ =>
  (readHeaders_stable maxHeaders).map _

/-- A head that is read is one whose lines are, and has no fault. -/
theorem readHead_eq_done {bs rest : Bytes} {h : Head} (hd : readHead bs = .done h rest) :
    readLines bs = .done h rest ∧ h.fault? = none := by
  rw [readHead] at hd
  split at hd
  · cases hd
  · obtain ⟨h', mid, hlines, hfault⟩ := bind_eq_done_iff.1 hd
    split at hfault
    · cases hfault
    · next hnone =>
      cases hfault
      exact ⟨hlines, hnone⟩

/-- More bytes do not make a head too large: it has ended within those that it has. -/
theorem readHead_stable : Stable readHead := by
  intro bs a rest h more
  obtain ⟨hdone, hfault⟩ := readHead_eq_done h
  rw [readHead] at h
  split at h
  · cases h
  · next hsmall =>
    have hlines := readLines_stable bs a rest hdone
    rw [readHead, if_neg, hlines more]
    · simp only [Reading.bind, hfault]
    simp only [Bool.and_eq_true, decide_eq_true_eq, not_and] at hsmall ⊢
    intro _
    by_cases hlen : maxHead ≤ bs.length
    · rw [List.take_append_of_le_length hlen]
      exact hsmall hlen
    · rw [List.take_append, List.take_of_length_le (by omega), hlines]
      simp [isMore]

theorem readFinalHead_stable : Stable readFinalHead := by
  intro bs
  fun_induction readFinalHead bs with
  | case1 => rintro _ _ ⟨⟩
  | case2 => rintro _ _ ⟨⟩
  | case3 bs head mid hd hi ih =>
    intro a rest h more
    rw [readFinalHead, readHead_stable bs head mid hd more]
    simpa [hi] using ih a rest h more
  | case4 bs head mid hd hi f hf =>
    rintro _ _ ⟨⟩ more
    rw [readFinalHead, readHead_stable bs head mid hd more]
    simp [hi, hf]
  | case5 => rintro _ _ ⟨⟩

theorem sizeEnd_stable (s : SizeLine) : Stable (sizeEnd s) := by
  intro bs a rest h more
  match bs with
  | [] => cases h
  | b :: bs =>
    rw [sizeEnd] at h
    rw [List.cons_append, sizeEnd]
    split at h
    · next hb =>
      cases h
      rw [if_pos hb]
    · cases h

theorem sizeExtension_stable (n room : Nat) : Stable (sizeExtension n room) := by
  intro bs
  fun_induction sizeExtension n room bs with
  | case1 => rintro _ _ ⟨⟩
  | case2 room bs => simpa [sizeExtension] using sizeEnd_stable ⟨n, room⟩ bs
  | case3 => rintro _ _ ⟨⟩
  | case4 => rintro _ _ ⟨⟩
  | case5 room b bs h₁ h₂ h₃ ih => simpa [sizeExtension, h₁, h₂, h₃] using ih

theorem sizeBlanks_stable (n room : Nat) : Stable (sizeBlanks n room) := by
  intro bs
  fun_induction sizeBlanks n room bs with
  | case1 => rintro _ _ ⟨⟩
  | case2 b bs hb ih => simpa [sizeBlanks, hb] using ih
  | case3 bs hb => simpa [sizeBlanks, hb] using sizeExtension_stable n room bs
  | case4 bs hb hx => simpa [sizeBlanks, hb] using sizeEnd_stable ⟨n, room⟩ bs
  | case5 => rintro _ _ ⟨⟩

theorem sizeDigits_stable (n room : Nat) : Stable (sizeDigits n room) := by
  intro bs
  fun_induction sizeDigits n room bs with
  | case1 => rintro _ _ ⟨⟩
  | case2 n b bs d hd hn ih => simpa [sizeDigits, hd, hn] using ih
  | case3 => rintro _ _ ⟨⟩
  | case4 n b bs hd hb => simpa [sizeDigits, hd, hb] using sizeBlanks_stable n room bs
  | case5 n bs hd hb => simpa [sizeDigits, hd, hb] using sizeExtension_stable n room bs
  | case6 n bs hd hb hx => simpa [sizeDigits, hd, hb] using sizeEnd_stable ⟨n, room⟩ bs
  | case7 => rintro _ _ ⟨⟩

theorem readSize_stable (room : Nat) : Stable (readSize room) := by
  intro bs a rest h more
  match bs with
  | [] => cases h
  | b :: bs =>
    rw [readSize] at h
    rw [List.cons_append, readSize]
    split at h
    · next d hd => exact sizeDigits_stable d room bs a rest h more
    · cases h

theorem dataEnd_stable : Stable dataEnd := by
  intro bs a rest h more
  match bs with
  | [] => cases h
  | b :: bs =>
    rw [dataEnd.eq_def] at h
    dsimp only at h
    split at h
    · next hb =>
      match bs with
      | [] => cases h
      | c :: cs =>
        dsimp only at h
        split at h
        · next hc =>
          cases h
          simp [dataEnd, hb, hc]
        · cases h
    · cases h

theorem readTrailer_stable (inLine : Bool) : Stable (readTrailer inLine) := by
  intro bs
  fun_induction readTrailer inLine bs with
  | case1 => rintro _ _ ⟨⟩
  | case2 => rintro _ _ ⟨⟩
  | case3 cs ih => simpa [readTrailer] using ih
  | case4 => rintro _ _ ⟨⟩
  | case5 inLine cs hl =>
    rintro _ _ ⟨⟩ more
    simp [readTrailer, hl]
  | case6 => rintro _ _ ⟨⟩
  | case7 inLine b bs hb ih =>
    intro a rest h more
    rw [List.cons_append, readTrailer.eq_def]
    simpa [hb] using ih a rest h more

/-- A chunk is read in three parts, of which none reads on in the next. -/
theorem readChunks_stable (room : Nat) : Stable (readChunks room) := by
  intro bs
  fun_induction readChunks room bs with
  | case1 => rintro _ _ ⟨⟩
  | case2 => rintro _ _ ⟨⟩
  | case3 room bs left mid hs =>
    intro a rest h more
    rw [readChunks, readSize_stable room bs ⟨0, left⟩ mid hs more]
    simpa using (readTrailer_stable false).map _ mid a rest h more
  | case4 => rintro _ _ ⟨⟩
  | case5 => rintro _ _ ⟨⟩
  | case6 => rintro _ _ ⟨⟩
  | case7 room bs n left mid hs hn hlen _ later hd ih =>
    intro a rest h more
    obtain ⟨body, hb, rfl⟩ := map_eq_done_iff.1 h
    have hle : n ≤ mid.length := Nat.not_lt.1 hlen
    have hdata : dataEnd ((mid ++ more).drop n) = .done () (later ++ more) := by
      rw [List.drop_append_of_le_length hle]
      exact dataEnd_stable _ () later hd more
    rw [readChunks, readSize_stable room bs ⟨n, left⟩ mid hs more]
    simp only [hn, if_false, List.length_append]
    rw [if_neg (by omega), hdata, List.take_append_of_le_length hle]
    simp only [ih body rest hb more, Reading.map]

/-- A body that tells its own end. -/
theorem readBody_stable {f : Framing} (hf : f ≠ .untilClose) (closed : Bool) :
    Stable (readBody f closed) := by
  intro bs a rest h more
  cases f with
  | length n =>
    rw [readBody] at h
    split at h
    · next hle =>
      cases h
      rw [readBody, if_pos (by simp; omega), List.take_append_of_le_length hle,
        List.drop_append_of_le_length hle]
    · cases h
  | chunked => exact readChunks_stable maxExtensions bs a rest h more
  | untilClose => exact absurd rfl hf

end Liveness.Http
