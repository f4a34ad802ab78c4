/-! Texts as bytes: the encoding in UTF-8, its inverse, and the order of byte strings. -/

namespace Liveness.Text

abbrev Bytes := List UInt8

namespace Utf8

def encode (s : String) : Bytes := s.toUTF8.data.toList

/-- The text that has exactly these bytes, if there is one. -/
def decode? (bs : Bytes) : Option String :=
  String.fromUTF8? ⟨bs.toArray⟩

theorem decode?_encode (s : String) : decode? (encode s) = some s := by
  have h : s.toByteArray.IsValidUTF8 := s.isValidUTF8
  simp [decode?, encode, String.fromUTF8?, String.fromUTF8, h]

theorem encode_of_decode? {bs : Bytes} {s : String} (h : decode? bs = some s) :
    encode s = bs := by
  unfold decode? String.fromUTF8? at h
  split at h
  · injection h with h
    subst h
    rfl
  · simp at h

theorem decode?_eq_some_iff {bs : Bytes} {s : String} : decode? bs = some s ↔ encode s = bs :=
  ⟨encode_of_decode?, fun h => h ▸ decode?_encode s⟩

theorem encode_inj {s t : String} (h : encode s = encode t) : s = t := by
  have := congrArg decode? h
  simpa [decode?_encode] using this

end Utf8

/-- Lexicographic order of byte strings; a proper beginning comes first. -/
def Bytes.before : Bytes → Bytes → Bool
  | _, [] => false
  | [], _ :: _ => true
  | a :: as, b :: bs =>
    a.toNat < b.toNat || (a == b && Bytes.before as bs)

namespace Bytes

theorem before_iff_lt {a b : Bytes} : a.before b = true ↔ a < b := by
  induction a generalizing b with
  | nil => cases b <;> simp [Bytes.before]
  | cons x xs ih =>
    cases b with
    | nil => simp [Bytes.before]
    | cons y ys => simp [Bytes.before, ih, List.cons_lt_cons_iff, UInt8.lt_iff_toNat_lt]

theorem before_irrefl (a : Bytes) : a.before a = false := by
  induction a with
  | nil => rfl
  | cons x xs ih => simp [Bytes.before, ih]

theorem before_trans {a b c : Bytes} (hab : a.before b = true) (hbc : b.before c = true) :
    a.before c = true := by
  induction a generalizing b c with
  | nil => cases b <;> cases c <;> simp_all [Bytes.before]
  | cons x xs ih =>
    cases b with
    | nil => simp [Bytes.before] at hab
    | cons y ys =>
      cases c with
      | nil => simp [Bytes.before] at hbc
      | cons z zs =>
        simp only [Bytes.before, Bool.or_eq_true, Bool.and_eq_true, decide_eq_true_eq,
          beq_iff_eq] at hab hbc ⊢
        rcases hab with h | ⟨rfl, h⟩
        · rcases hbc with h' | ⟨rfl, _⟩
          · exact .inl (Nat.lt_trans h h')
          · exact .inl h
        · rcases hbc with h' | ⟨rfl, h'⟩
          · exact .inl h'
          · exact .inr ⟨rfl, ih h h'⟩

theorem before_of_ne {a b : Bytes} (hne : a ≠ b) (h : a.before b = false) :
    b.before a = true := by
  induction a generalizing b with
  | nil => cases b <;> simp_all [Bytes.before]
  | cons x xs ih =>
    cases b with
    | nil => rfl
    | cons y ys =>
      simp only [Bytes.before, Bool.or_eq_false_iff, decide_eq_false_iff_not, Nat.not_lt,
        Bool.and_eq_false_imp, beq_iff_eq] at h
      simp only [Bytes.before, Bool.or_eq_true, Bool.and_eq_true, decide_eq_true_eq, beq_iff_eq]
      rcases Nat.lt_or_eq_of_le h.1 with hlt | heq
      · exact .inl hlt
      · have hxy : y = x := UInt8.toNat_inj.1 heq
        subst hxy
        exact .inr ⟨rfl, ih (fun e => hne (by rw [e])) (h.2 rfl)⟩

end Bytes

end Liveness.Text
