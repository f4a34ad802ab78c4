import Liveness.Proofs.Text.Characters
import Liveness.Url.Percent

/-! Percent-encoding again what is percent-encoded changes nothing: an escape is made of
characters that every part of a URL holds as they are. -/

namespace Liveness.Url.Percent

open Text

/-- What any set must hold for escapes to be left alone: the characters of escapes. -/
structure KeepsEscapes (allowed : Char → Bool) : Prop where
  percent : allowed '%' = true
  digit : ∀ n < 16, allowed (hexDigit n) = true

theorem isVisible_of_allows {refused : List Char} {c : Char} (h : allows refused c = true) :
    isVisible c = true := by
  rw [allows, Bool.and_eq_true] at h
  exact h.1

theorem isVisible_of_isAlphanum {c : Char} (h : c.isAlphanum = true) : isVisible c = true := by
  have := toNat_of_isAlphanum h
  simp only [isVisible, Bool.and_eq_true, decide_eq_true_eq]
  omega

theorem not_mem_of_allows {refused : List Char} {c : Char} (h : allows refused c = true) :
    c ∉ refused := by
  rw [allows, Bool.and_eq_true] at h
  simpa using h.2

/-- Every part of a URL that refuses the space has only characters behind it. -/
theorem lt_of_allows {refused : List Char} {c : Char} (h : allows refused c = true)
    (hspace : ' ' ∈ refused) : 0x20 < c.toNat := by
  have hvisible := isVisible_of_allows h
  simp only [isVisible, Bool.and_eq_true, decide_eq_true_eq] at hvisible
  refine Nat.lt_of_le_of_ne hvisible.1 fun e => ?_
  have : c = ' ' := by rw [← Char.ofNat_toNat c, ← e]
  exact not_mem_of_allows h (this ▸ hspace)

theorem keepsEscapes_fragment : KeepsEscapes fragment := ⟨by decide, by decide⟩

theorem keepsEscapes_webQuery : KeepsEscapes webQuery := ⟨by decide, by decide⟩

theorem keepsEscapes_path : KeepsEscapes path := ⟨by decide, by decide⟩

theorem keepsEscapes_userinfo : KeepsEscapes userinfo := ⟨by decide, by decide⟩

variable {allowed : Char → Bool} {cs : List Char} {c : Char}

theorem encode_cons : encode allowed (c :: cs) = encodeChar allowed c ++ encode allowed cs :=
  List.flatMap_cons

/-- A character is written as it is, or as escapes. -/
theorem encodeChar_cases (allowed : Char → Bool) (c : Char) :
    (allowed c = true ∧ encodeChar allowed c = [c]) ∨
      (allowed c = false ∧ ∃ b bs, String.utf8EncodeChar c = b :: bs ∧
        encodeChar allowed c = encodeByte b ++ bs.flatMap encodeByte) := by
  cases h : allowed c with
  | true => exact .inl ⟨rfl, if_pos h⟩
  | false =>
    obtain ⟨b, bs, hb⟩ := List.exists_cons_of_ne_nil (String.utf8EncodeChar_ne_nil (c := c))
    refine .inr ⟨rfl, b, bs, hb, ?_⟩
    rw [encodeChar, h, hb]
    rfl

theorem mem_encodeByte {b : UInt8} (h : c ∈ encodeByte b) :
    c = '%' ∨ ∃ n < 16, c = hexDigit n := by
  have hb := b.toNat_lt
  simp only [encodeByte, List.mem_cons, List.not_mem_nil, or_false] at h
  rcases h with h | h | h
  · exact .inl h
  · exact .inr ⟨_, by omega, h⟩
  · exact .inr ⟨_, by omega, h⟩

/-- A character of what is written is one of the text that is allowed, or one of an
escape. -/
theorem mem_encode (h : c ∈ encode allowed cs) :
    (c ∈ cs ∧ allowed c = true) ∨ c = '%' ∨ ∃ n < 16, c = hexDigit n := by
  obtain ⟨d, hd, hc⟩ := List.mem_flatMap.1 h
  rw [encodeChar] at hc
  split at hc
  · next ha =>
    rw [List.mem_singleton] at hc
    subst hc
    exact .inl ⟨hd, ha⟩
  · obtain ⟨b, -, hb⟩ := List.mem_flatMap.1 hc
    exact .inr (mem_encodeByte hb)

theorem KeepsEscapes.encode (hk : KeepsEscapes allowed) (h : c ∈ Percent.encode allowed cs) :
    allowed c = true := by
  rcases mem_encode h with ⟨-, ha⟩ | rfl | ⟨n, hn, rfl⟩
  · exact ha
  · exact hk.percent
  · exact hk.digit n hn

theorem encode_of_allowed (h : ∀ c ∈ cs, allowed c = true) : encode allowed cs = cs := by
  induction cs with
  | nil => rfl
  | cons c cs ih =>
    rw [List.forall_mem_cons] at h
    rw [encode_cons, ih h.2, encodeChar, if_pos h.1]
    rfl

theorem encode_eq_nil (h : encode allowed cs = []) : cs = [] := by
  cases cs with
  | nil => rfl
  | cons c cs =>
    rw [encode_cons, List.append_eq_nil_iff] at h
    rcases encodeChar_cases allowed c with ⟨-, he⟩ | ⟨-, b, bs, -, he⟩
    · cases he.symm.trans h.1
    · cases he.symm.trans h.1

/-- What does not begin with an escape begins as the text does. -/
theorem exists_of_encode_eq_cons {x : Char} {xs : List Char}
    (h : encode allowed cs = x :: xs) (hx : x ≠ '%') :
    ∃ rest, cs = x :: rest ∧ encode allowed rest = xs := by
  cases cs with
  | nil => cases h
  | cons c cs =>
    rw [encode_cons] at h
    rcases encodeChar_cases allowed c with ⟨-, he⟩ | ⟨-, b, bs, -, he⟩
    · rw [he, List.singleton_append] at h
      obtain ⟨rfl, hrest⟩ := List.cons.inj h
      exact ⟨cs, rfl, hrest⟩
    · rw [he] at h
      exact absurd (List.cons.inj h).1.symm hx

/-- The first byte of an encoded character is its code point, or not of ASCII. -/
theorem head_utf8EncodeChar {b : UInt8} {bs : List UInt8}
    (h : String.utf8EncodeChar c = b :: bs) : b.toNat = c.toNat ∨ 0x80 ≤ b.toNat := by
  rcases utf8EncodeChar_cases c with ⟨hlt, he⟩ | ⟨-, hall⟩
  · cases he.symm.trans h
    rw [UInt8.toNat_ofNat']
    omega
  · exact .inr (hall b (h ▸ List.mem_cons_self))

theorem decode_of_not_mem (h : '%' ∉ cs) : decode cs = Utf8.encode (String.ofList cs) := by
  rw [Utf8.encode_ofList]
  induction cs with
  | nil => rfl
  | cons c cs ih =>
    rw [List.mem_cons, not_or] at h
    rw [List.flatMap_cons, ← ih h.2, decode.eq_def]
    split
    · next heq => cases heq
    · next heq => cases heq; exact absurd rfl h.1
    · next heq => cases heq; rfl

end Liveness.Url.Percent
