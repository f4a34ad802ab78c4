import Liveness.Text.Utf8

/-! Characters by their code points, and texts by their characters. -/

namespace Liveness.Text

theorem toNat_ofNat {n : Nat} (h : n.isValidChar) : (Char.ofNat n).toNat = n := by
  rw [Char.ofNat, dif_pos h]
  rfl

/-- What holds for the characters of the first code points is tried out on each of these. -/
theorem forall_char_lt {b : Nat} {P : Char → Prop} (h : ∀ n < b, P (Char.ofNat n)) (c : Char)
    (hc : c.toNat < b) : P c := by
  have := h c.toNat hc
  rwa [Char.ofNat_toNat] at this

theorem toNat_of_isAlphanum {c : Char} (h : c.isAlphanum = true) :
    0x30 ≤ c.toNat ∧ c.toNat ≤ 0x7A := by
  have hval : c.toNat = c.val.toNat := rfl
  have hranges : ((decide (c.val ≥ 'A'.val ∧ c.val ≤ 'Z'.val) ||
      decide (c.val ≥ 'a'.val) && decide (c.val ≤ 'z'.val)) ||
      decide (c.val ≥ '0'.val) && decide (c.val ≤ '9'.val)) = true := h
  simp only [ge_iff_le, Char.reduceVal, UInt32.le_iff_toNat_le, UInt32.reduceToNat,
    Bool.or_eq_true, Bool.and_eq_true, decide_eq_true_eq] at hranges
  omega

theorem Utf8.encode_ofList (cs : List Char) :
    encode (String.ofList cs) = cs.flatMap String.utf8EncodeChar := by
  simp [encode, List.utf8Encode]

theorem Utf8.encode_eq (s : String) : encode s = s.toList.flatMap String.utf8EncodeChar := by
  rw [← encode_ofList, String.ofList_toList]

/-- A character of ASCII is one byte, and others have no byte that is one. -/
theorem utf8EncodeChar_cases (c : Char) :
    (c.toNat < 0x80 ∧ String.utf8EncodeChar c = [c.toNat.toUInt8]) ∨
      (0x80 ≤ c.toNat ∧ ∀ b ∈ String.utf8EncodeChar c, 0x80 ≤ b.toNat) := by
  have hc : c.val.toNat = c.toNat := rfl
  rw [String.utf8EncodeChar]
  split
  · next h => exact .inl ⟨by omega, rfl⟩
  · next h =>
    refine .inr ⟨by omega, ?_⟩
    split
    · simp
      omega
    · split <;>
      · simp
        omega

theorem Utf8.mem_encode {s : String} {b : UInt8} (h : b ∈ encode s) :
    (∃ c ∈ s.toList, c.toNat = b.toNat) ∨ 0x80 ≤ b.toNat := by
  rw [encode_eq] at h
  obtain ⟨c, hc, hb⟩ := List.mem_flatMap.1 h
  rcases utf8EncodeChar_cases c with ⟨hlt, he⟩ | ⟨-, hall⟩
  · rw [he, List.mem_singleton] at hb
    refine .inl ⟨c, hc, ?_⟩
    rw [hb, UInt8.toNat_ofNat']
    omega
  · exact .inr (hall b hb)

theorem Utf8.mem_encode_of_mem {s : String} {c : Char} (hc : c ∈ s.toList)
    (hlt : c.toNat < 0x80) : c.toNat.toUInt8 ∈ encode s := by
  rw [encode_eq]
  refine List.mem_flatMap.2 ⟨c, hc, ?_⟩
  rcases utf8EncodeChar_cases c with ⟨-, he⟩ | ⟨hge, -⟩
  · rw [he]
    exact List.mem_singleton_self _
  · omega

end Liveness.Text
