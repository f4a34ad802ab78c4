import Liveness.Json.Writer
import Liveness.Proofs.Json.Strings

/-! What is written is of the grammar, and says what it was written for. -/

namespace Liveness.Json

/-- What a character is written as stands for that character. -/
theorem spelling_escape (c : Char) : Spelling c (escape c) := by
  unfold escape
  split
  · next h =>
    refine .letter ?_
    simp only [Bool.or_eq_true, decide_eq_true_eq] at h
    rcases h with rfl | rfl <;> simp [letters]
  split
  · next h => exact h ▸ .letter (by simp [letters])
  split
  · next h => exact h ▸ .letter (by simp [letters])
  split
  · next h => exact h ▸ .letter (by simp [letters])
  split
  · next h => exact h ▸ .letter (by simp [letters])
  split
  · next h => exact h ▸ .letter (by simp [letters])
  split
  · next h =>
    -- a control character is written with two digits that give its code point
    have hdigit : ∀ d < 16, HexDigit d (Nat.digitChar d) := fun d hd => ⟨hd, .inl rfl⟩
    have hcode := HexCode.mk (hdigit 0 (by decide)) (hdigit 0 (by decide))
      (hdigit (c.toNat / 16 % 16) (by omega)) (hdigit (c.toNat % 16) (by omega))
    have hvalue : ((16 * 0 + 0) * 16 + c.toNat / 16 % 16) * 16 + c.toNat % 16 = c.toNat := by omega
    rw [hvalue] at hcode
    have hspelling := Spelling.code hcode (by omega)
    rwa [Char.ofNat_toNat] at hspelling
  · next hquote _ _ _ _ _ hcontrol =>
    simp only [Bool.or_eq_true, decide_eq_true_eq, not_or] at hquote
    exact .plain hquote.1 hquote.2 (Nat.not_lt.1 hcontrol)

theorem spells_escape (s : List Char) : Spells s (s.flatMap escape) := by
  induction s with
  | nil => exact .nil
  | cons c s ih => exact .cons (spelling_escape c) ih

theorem isText_quote (s : String) : IsText s (quote s) := .mk (spells_escape s.toList)

end Liveness.Json
