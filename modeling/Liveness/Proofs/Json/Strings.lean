import Mathlib.Data.Nat.Digits.Defs
import Liveness.Proofs.Except
import Liveness.Proofs.Json.Grammar
import Liveness.Proofs.Text.Characters

/-! Reading and passing over strings: a text is read exactly if it spells something, and passed
over exactly if it has the form of a string. -/

namespace Liveness.Json

open Text

variable {c : Char} {n : Nat} {cs ds e raw rest s : List Char}

theorem hexValue?_eq_some_iff {d : Nat} : hexValue? c = some d ↔ HexDigit d c := by
  constructor
  · intro h
    have key : ∀ n < 0x80, ∀ d < 16, hexValue? (Char.ofNat n) = some d →
        HexDigit d (Char.ofNat n) := by decide +kernel
    have hbound : c.toNat < 0x80 ∧ d < 16 := by
      rw [hexValue?] at h
      simp only [Char.isDigit, Bool.and_eq_true, decide_eq_true_eq, Char.le_def,
        UInt32.le_iff_toNat_le] at h
      change (if 48 ≤ c.toNat ∧ c.toNat ≤ 57 then some (c.toNat - 0x30)
        else if 97 ≤ c.toNat ∧ c.toNat ≤ 102 then some (c.toNat - 0x61 + 10)
        else if 65 ≤ c.toNat ∧ c.toNat ≤ 70 then some (c.toNat - 0x41 + 10) else none) =
          some d at h
      split_ifs at h <;> cases h <;> omega
    exact forall_char_lt (P := fun c => ∀ d < 16, hexValue? c = some d → HexDigit d c) key c
      hbound.1 d hbound.2 h
  · intro h
    obtain ⟨hd, h⟩ := h
    have key : ∀ d < 16, hexValue? (Nat.digitChar d) = some d ∧
        hexValue? (Nat.digitChar d).toUpper = some d := by decide
    rcases h with h | h
    · rw [h]
      exact (key d hd).1
    · rw [h]
      exact (key d hd).2

theorem readHex_of_hexCode (h : HexCode n ds) (rest : List Char) :
    readHex (ds ++ rest) = .ok (n, rest) := by
  cases h with
  | mk h₁ h₂ h₃ h₄ =>
    rw [← hexValue?_eq_some_iff] at h₁ h₂ h₃ h₄
    simp only [List.cons_append, List.nil_append, readHex, hexNumber?, h₁, h₂, h₃, h₄]

theorem hexCode_of_readHex (h : readHex cs = .ok (n, rest)) :
    ∃ ds, cs = ds ++ rest ∧ HexCode n ds := by
  unfold readHex at h
  split at h
  · next a b c d r =>
    split at h
    · next m hm =>
      cases h
      unfold hexNumber? at hm
      split at hm
      · next h₁ h₂ h₃ h₄ =>
        cases hm
        rw [hexValue?_eq_some_iff] at h₁ h₂ h₃ h₄
        exact ⟨[a, b, c, d], rfl, .mk h₁ h₂ h₃ h₄⟩
      · cases hm
    · cases h
  · cases h

theorem letterEscape?_eq_some_iff {l : Char} :
    letterEscape? l = some c ↔ (l, c) ∈ letters := by
  simp only [letterEscape?, letters, List.mem_cons, Prod.mk.injEq, List.not_mem_nil, or_false,
    Bool.or_eq_true, decide_eq_true_eq]
  split_ifs <;> aesop

theorem letter_ne_u {l : Char} (h : (l, c) ∈ letters) : l ≠ 'u' := by
  rintro rfl
  have key : ∀ p ∈ letters, p.1 ≠ 'u' := by decide
  exact key _ h rfl

theorem isHighSurrogate_iff : isHighSurrogate n = true ↔ 0xD800 ≤ n ∧ n < 0xDC00 := by
  simp only [isHighSurrogate, Bool.and_eq_true, decide_eq_true_eq]
  omega

theorem isLowSurrogate_iff : isLowSurrogate n = true ↔ 0xDC00 ≤ n ∧ n < 0xE000 := by
  simp only [isLowSurrogate, Bool.and_eq_true, decide_eq_true_eq]
  omega

theorem readElement_of_spelling (h : Spelling c e) (rest : List Char) :
    readElement (e ++ rest) = .ok (some c, rest) := by
  cases h with
  | plain hquote hslash hcontrol =>
    have hnot : ¬ c.toNat < 0x20 := Nat.not_lt.2 hcontrol
    simp [readElement, hquote, hslash, hnot]
  | @letter l _ hl =>
    have hu := letter_ne_u hl
    rw [← letterEscape?_eq_some_iff] at hl
    simp [readElement, readEscape, hu, hl, Except.map]
  | @code n ds hn hrange =>
    have hlow : isLowSurrogate n = false := by
      rw [← Bool.not_eq_true, isLowSurrogate_iff]
      omega
    have hhigh : isHighSurrogate n = false := by
      rw [← Bool.not_eq_true, isHighSurrogate_iff]
      omega
    simp [readElement, readEscape, readHex_of_hexCode hn, hlow, hhigh, Except.map]
  | @pair high low ds es hhigh hlow h₁ h₂ h₃ h₄ =>
    have hnotlow : isLowSurrogate high = false := by
      rw [← Bool.not_eq_true, isLowSurrogate_iff]
      omega
    have hishigh : isHighSurrogate high = true := isHighSurrogate_iff.2 ⟨h₁, h₂⟩
    have hislow : isLowSurrogate low = true := isLowSurrogate_iff.2 ⟨h₃, h₄⟩
    have hhalf : readLowHalf high ('\\' :: 'u' :: (es ++ rest)) =
        .ok (Char.ofNat (0x10000 + 0x400 * (high - 0xD800) + (low - 0xDC00)), rest) := by
      simp [readLowHalf, readHex_of_hexCode hlow, hislow]
    simp [readElement, readEscape, readHex_of_hexCode hhigh, hnotlow, hishigh, hhalf, Except.map]

theorem half_of_readLowHalf {high : Nat} (h : readLowHalf high cs = .ok (c, rest)) :
    ∃ low es, cs = '\\' :: 'u' :: (es ++ rest) ∧ HexCode low es ∧
      (0xDC00 ≤ low ∧ low < 0xE000) ∧
      c = Char.ofNat (0x10000 + 0x400 * (high - 0xD800) + (low - 0xDC00)) := by
  unfold readLowHalf at h
  split at h
  · cases h
  · cases h
  · split at h
    · cases h
    · next low rest' hread =>
      obtain ⟨es, rfl, hes⟩ := hexCode_of_readHex hread
      split at h
      · next hislow =>
        rw [Except.ok.injEq, Prod.mk.injEq] at h
        obtain ⟨rfl, rfl⟩ := h
        exact ⟨low, es, rfl, hes, isLowSurrogate_iff.1 hislow, rfl⟩
      · cases h
  · cases h
  · cases h

theorem spelling_of_readEscape (h : readEscape cs = .ok (c, rest)) :
    ∃ e, '\\' :: cs = e ++ rest ∧ Spelling c e := by
  unfold readEscape at h
  split at h
  · cases h
  · next l cs =>
    split at h
    · next hu =>
      subst hu
      split at h
      · cases h
      · next n mid hread =>
        obtain ⟨ds, rfl, hn⟩ := hexCode_of_readHex hread
        split at h
        · cases h
        · next hlow =>
          rw [isLowSurrogate_iff] at hlow
          split at h
          · next hhigh =>
            rw [isHighSurrogate_iff] at hhigh
            obtain ⟨low, es, rfl, hes, hrange, hc⟩ := half_of_readLowHalf h
            have hpair := Spelling.pair hn hes hhigh.1 hhigh.2 hrange.1 hrange.2
            rw [← hc] at hpair
            exact ⟨_, by simp, hpair⟩
          · next hhigh =>
            cases h
            rw [isHighSurrogate_iff] at hhigh
            exact ⟨'\\' :: 'u' :: ds, rfl, .code hn (by omega)⟩
    · split at h
      · next x hx =>
        cases h
        exact ⟨['\\', l], rfl, .letter (letterEscape?_eq_some_iff.1 hx)⟩
      · cases h

theorem spelling_of_readElement (h : readElement cs = .ok (some c, rest)) :
    ∃ e, cs = e ++ rest ∧ Spelling c e := by
  unfold readElement at h
  split at h
  · cases h
  · next d r =>
    split at h
    · cases h
    · next hquote =>
      split at h
      · next hslash =>
        rw [Except.map_eq_ok_iff] at h
        obtain ⟨⟨x, mid⟩, hread, heq⟩ := h
        cases heq
        rw [hslash]
        exact spelling_of_readEscape hread
      · next hslash =>
        split at h
        · cases h
        · next hcontrol =>
          cases h
          exact ⟨[c], rfl, .plain hquote hslash (Nat.not_lt.1 hcontrol)⟩

theorem quote_of_readElement (h : readElement cs = .ok (none, rest)) : cs = '"' :: rest := by
  unfold readElement at h
  split at h
  · cases h
  · next d r =>
    split at h
    · next hquote =>
      cases h
      rw [hquote]
    · split at h
      · rw [Except.map_eq_ok_iff] at h
        obtain ⟨p, -, heq⟩ := h
        cases heq
      · split at h <;> cases h

theorem readString_of_end (h : readElement cs = .ok (none, rest)) :
    readString cs = .ok ([], rest) := by
  rw [readString]
  split <;> simp_all

theorem readString_of_element {c : Char} (h : readElement cs = .ok (some c, rest)) :
    readString cs = (readString rest).map fun (s, rest) => (c :: s, rest) := by
  rw [readString]
  split
  · simp_all
  · simp_all
  · next h' =>
    cases h.symm.trans h'
    cases readString rest <;> rfl

/-- Characters that need no escape spell themselves. -/
theorem spells_self (h : ∀ c ∈ s, c ≠ '"' ∧ c ≠ '\\' ∧ 0x20 ≤ c.toNat) : Spells s s := by
  induction s with
  | nil => exact .nil
  | cons c s ih =>
    obtain ⟨hc, hs⟩ := List.forall_mem_cons.1 h
    exact .cons (.plain hc.1 hc.2.1 hc.2.2) (ih hs)

theorem readString_of_spells (h : Spells s raw) (rest : List Char) :
    readString (raw ++ '"' :: rest) = .ok (s, rest) := by
  induction h with
  | nil => exact readString_of_end rfl
  | cons hc _ ih =>
    rw [List.append_assoc, readString_of_element (readElement_of_spelling hc _), ih]
    rfl

theorem spells_of_readString (h : readString cs = .ok (s, rest)) :
    ∃ raw, cs = raw ++ '"' :: rest ∧ Spells s raw := by
  fun_induction readString cs generalizing s rest with
  | case1 => cases h
  | case2 cs r he =>
    cases h
    exact ⟨[], quote_of_readElement he, .nil⟩
  | case3 => cases h
  | case4 cs c r he s' r' hr ih =>
    cases h
    obtain ⟨raw, rfl, hs⟩ := ih hr
    obtain ⟨e, rfl, hc⟩ := spelling_of_readElement he
    exact ⟨e ++ raw, by rw [List.append_assoc], .cons hc hs⟩

theorem skipString_of_piece (h : Piece e) (rest : List Char) :
    skipString (e ++ rest) = skipString rest := by
  have hstep : ∀ {r r' : List Char}, skipEscape r = .ok r' →
      skipString ('\\' :: r) = skipString r' := by
    intro r r' he
    rw [skipString]
    simp only [Char.reduceEq, if_false, if_true]
    split
    · next h => cases he.symm.trans h
    · next h =>
      cases he.symm.trans h
      rfl
  cases h with
  | plain hquote hslash hcontrol =>
    rw [List.singleton_append, skipString, if_neg hquote, if_neg hslash,
      if_neg (Nat.not_lt.2 hcontrol)]
  | @letter l c hl =>
    refine hstep ?_
    have hsome : (letterEscape? l).isSome = true :=
      Option.isSome_iff_exists.2 ⟨c, letterEscape?_eq_some_iff.2 hl⟩
    exact (if_neg (letter_ne_u hl)).trans (if_pos hsome)
  | @code n ds hn =>
    refine hstep ?_
    change (readHex (ds ++ rest)).map (·.2) = _
    rw [readHex_of_hexCode hn]
    rfl

theorem skipString_of_raw (h : Raw raw) (rest : List Char) :
    skipString (raw ++ '"' :: rest) = .ok rest := by
  induction h with
  | nil =>
    rw [List.nil_append, skipString]
    exact if_pos rfl
  | cons hp _ ih => rw [List.append_assoc, skipString_of_piece hp, ih]

theorem piece_of_skipEscape (h : skipEscape cs = .ok rest) :
    ∃ e, '\\' :: cs = e ++ rest ∧ Piece e := by
  unfold skipEscape at h
  split at h
  · cases h
  · next l cs =>
    split at h
    · next hu =>
      rw [Except.map_eq_ok_iff] at h
      obtain ⟨⟨n, mid⟩, hread, heq⟩ := h
      cases heq
      obtain ⟨ds, rfl, hn⟩ := hexCode_of_readHex hread
      rw [hu]
      exact ⟨'\\' :: 'u' :: ds, rfl, .code hn⟩
    · split at h
      · next hsome =>
        cases h
        obtain ⟨c, hc⟩ := Option.isSome_iff_exists.1 hsome
        exact ⟨['\\', l], rfl, .letter (letterEscape?_eq_some_iff.1 hc)⟩
      · cases h

theorem raw_of_skipString (h : skipString cs = .ok rest) :
    ∃ raw, cs = raw ++ '"' :: rest ∧ Raw raw := by
  fun_induction skipString cs generalizing rest with
  | case1 => cases h
  | case2 =>
    cases h
    exact ⟨[], rfl, .nil⟩
  | case3 => cases h
  | case4 r mid he _ _ ih =>
    obtain ⟨raw, rfl, hraw⟩ := ih h
    obtain ⟨e, hcs, hp⟩ := piece_of_skipEscape he
    exact ⟨e ++ raw, by rw [hcs, List.append_assoc], .cons hp hraw⟩
  | case5 => cases h
  | case6 c r hquote hslash hcontrol ih =>
    obtain ⟨raw, rfl, hraw⟩ := ih h
    exact ⟨[c] ++ raw, rfl, .cons (.plain hquote hslash (Nat.not_lt.1 hcontrol)) hraw⟩

end Liveness.Json
