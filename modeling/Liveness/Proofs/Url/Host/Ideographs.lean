import Liveness.Proofs.Url.Host.Domain

/-! Names of ideographs. Nothing in them is mapped, composed or turned around, so that the
ASCII form of a label of ideographs is its code, however long that gets. -/

namespace Liveness.Unicode

variable {c : Char} {cs : List Char}

theorem IsIdeograph.bounds (hc : isIdeograph c = true) : 0x4E00 ≤ c.toNat ∧ c.toNat ≤ 0x9FFF := by
  simpa [isIdeograph] using hc

theorem combiningClass_of_ideograph (hc : isIdeograph c = true) : combiningClass c = 0 :=
  if_pos (by rw [hc, Bool.or_true])

theorem sortMarks_of_ideographs (h : ∀ c ∈ cs, isIdeograph c = true) : sortMarks cs = cs := by
  induction cs with
  | nil => rfl
  | cons c cs ih =>
    rw [List.forall_mem_cons] at h
    rw [sortMarks, List.foldr_cons, ← sortMarks, ih h.2]
    cases cs with
    | nil => rfl
    | cons d ds =>
      rw [placeMark, combiningClass_of_ideograph (h.2 d List.mem_cons_self)]
      rfl

theorem composeAfter_of_ideographs {s : Char} (h : ∀ c ∈ cs, isIdeograph c = true) :
    composeAfter s [] cs = s :: cs := by
  induction cs generalizing s with
  | nil => rfl
  | cons c cs ih =>
    rw [List.forall_mem_cons] at h
    have hapart : compose? s c = none := if_pos (by rw [h.1, Bool.or_true])
    rw [composeAfter]
    simp [hapart, combiningClass_of_ideograph h.1, ih h.2]

theorem normalize_of_ideographs (h : ∀ c ∈ cs, isIdeograph c = true) : normalize cs = cs := by
  have hdecompose : cs.flatMap decompose = cs := by
    induction cs with
    | nil => rfl
    | cons c cs ih =>
      rw [List.forall_mem_cons] at h
      rw [List.flatMap_cons, ih h.2, decompose, if_pos (by rw [h.1, Bool.or_true])]
      rfl
  rw [normalize, hdecompose, sortMarks_of_ideographs h]
  split
  · rfl
  · cases cs with
    | nil => rfl
    | cons c cs =>
      rw [List.forall_mem_cons] at h
      rw [composeAll, if_pos (combiningClass_of_ideograph h.1), composeAfter_of_ideographs h.2]

end Liveness.Unicode

namespace Liveness.Url.Host

open Unicode

variable {cs : List Char}

theorem fate_of_ideograph {c : Char} (hc : isIdeograph c = true) : fate c = .keep := by
  have := (IsIdeograph.bounds hc).1
  rw [fate, if_neg (by omega), if_pos hc]

theorem mapped?_of_ideographs (h : ∀ c ∈ cs, isIdeograph c = true) : mapped? cs = some cs := by
  induction cs with
  | nil => rfl
  | cons c cs ih =>
    rw [List.forall_mem_cons] at h
    rw [mapped?, fate_of_ideograph h.1, ih h.2]
    rfl

theorem joinersFit_of_ideographs (before : List Char) (h : ∀ c ∈ cs, isIdeograph c = true) :
    joinersFit before cs = true := by
  induction cs generalizing before with
  | nil => rfl
  | cons c cs ih =>
    rw [List.forall_mem_cons] at h
    have hjoiner : c ≠ '\u200c' ∧ c ≠ '\u200d' := by
      constructor <;> rintro rfl <;> exact absurd h.1 (by decide)
    rw [joinersFit, if_neg hjoiner.1, if_neg hjoiner.2, ih _ h.2]
    rfl

theorem isAscii_of_forbidden {c : Char} (h : isForbidden c = true) : c.toNat < 0x80 := by
  simp only [isForbidden, Bool.or_eq_true, decide_eq_true_eq, List.contains_iff_mem] at h
  rcases h with ((h | h) | h) | h
  · omega
  · omega
  · have hle : c.val ≤ 90 := (of_decide_eq_true h).2
    exact Nat.lt_of_le_of_lt (UInt32.le_iff_toNat_le.1 hle) (by decide)
  · have hall : (['%', '#', '/', ':', '<', '>', '?', '@', '[', '\\', ']', '^', '|'].all
        fun c => decide (c.toNat < 0x80)) = true := by decide
    exact of_decide_eq_true (List.all_eq_true.1 hall c h)

/-- A label of ideographs may stand in a name. -/
theorem fit_of_ideographs (h : ∀ c ∈ cs, isIdeograph c = true) : fit [cs] = true := by
  have hforbidden : cs.any isForbidden = false := by
    rw [List.any_eq_false]
    intro c hc
    have hge := (IsIdeograph.bounds (h c hc)).1
    intro hf
    have := isAscii_of_forbidden hf
    omega
  have hvalid : labelIsValid cs = true := by
    have hkeep : (cs.all fun c => decide (fate c = .keep)) = true :=
      List.all_eq_true.2 fun c hc => decide_eq_true (fate_of_ideograph (h c hc))
    have hmark : cs.head?.any isMark = false := by
      cases cs with
      | nil => rfl
      | cons c cs => exact if_pos (by rw [h c List.mem_cons_self, Bool.or_true])
    rw [labelIsValid, normalize_of_ideographs h, hkeep, hmark, joinersFit_of_ideographs [] h]
    simp
  have hleft : cs.any isRightToLeft = false := by
    rw [List.any_eq_false]
    intro c hc
    have hclass : bidiClass c = .left := if_pos (h c hc)
    rw [isRightToLeft, hclass]
    simp
  simp [fit, hforbidden, hvalid, hleft]

theorem domainToAscii?_of_ideographs (h : ∀ c ∈ cs, isIdeograph c = true) (hne : cs ≠ [])
    (hlen : cs.length ≤ maxEncoded) :
    domainToAscii? cs = some (punycodePrefix ++ Punycode.encode cs) := by
  have hdot : '.' ∉ cs := fun hm => absurd (h _ hm) (by decide)
  have hmeaning : meaning? cs = some cs := by
    refine if_neg fun hcode => ?_
    have hx : 'x' ∈ cs := by
      refine List.mem_of_mem_take (i := 4) ?_
      rw [hcode]
      exact List.mem_cons_self
    exact absurd (h _ hx) (by decide)
  have hcode : encodedLabel? cs = some (punycodePrefix ++ Punycode.encode cs) := by
    have hascii : isAscii cs = false := by
      obtain ⟨c, rest, rfl⟩ := List.exists_cons_of_ne_nil hne
      have := (IsIdeograph.bounds (h c List.mem_cons_self)).1
      rw [isAscii, List.all_cons, decide_eq_false (by omega), Bool.false_and]
    rw [encodedLabel?, hascii, if_neg Bool.false_ne_true, if_neg (by omega)]
  rw [domainToAscii?_eq, mapped?_of_ideographs h, Option.bind_some, normalize_of_ideographs h,
    splitOn_of_not_mem hdot]
  simp [hmeaning, fit_of_ideographs h, hcode, joinWith]

end Liveness.Url.Host
