import Mathlib.Data.List.TakeWhile
import Liveness.Url.Parser

/-! Texts cut at their separators. Parts that hold no separator are what their joined text
is cut into. -/

namespace Liveness.Url

open Host (joinWith)

theorem Host.splitOn_eq (d : Char) (cs : List Char) : splitOn d cs = cs.splitOnP (· = d) := by
  induction cs with
  | nil => simp [splitOn]
  | cons c cs ih =>
    obtain ⟨p, ps, hp⟩ := List.exists_cons_of_ne_nil (List.splitOnP_ne_nil (· = d) cs)
    rw [hp] at ih
    rw [splitOn, ih, List.splitOnP_cons_eq_if_modifyHead, hp]
    by_cases h : c = d <;> simp [h]

theorem splitPath_eq (k : Kind) (cs : List Char) : splitPath k cs = cs.splitOnP (isSlash k) := by
  induction cs with
  | nil => simp [splitPath]
  | cons c cs ih =>
    obtain ⟨p, ps, hp⟩ := List.exists_cons_of_ne_nil (List.splitOnP_ne_nil (isSlash k) cs)
    rw [hp] at ih
    rw [splitPath, ih, List.splitOnP_cons_eq_if_modifyHead, hp]
    rfl

variable {p : Char → Bool} {d : Char} {cs : List Char}

theorem joinWith_cons {s : List Char} {ps : List (List Char)} (h : ps ≠ []) :
    joinWith d (s :: ps) = s ++ d :: joinWith d ps := by
  cases ps with
  | nil => exact absurd rfl h
  | cons t ts => rfl

theorem mem_of_splitOnP {s : List Char} {c : Char} (hs : s ∈ cs.splitOnP p) (hc : c ∈ s) :
    c ∈ cs ∧ p c = false := by
  induction cs generalizing s with
  | nil =>
    rw [List.splitOnP_nil, List.mem_singleton] at hs
    subst hs
    cases hc
  | cons x cs ih =>
    rw [List.splitOnP_cons_eq_if_modifyHead] at hs
    split at hs
    · rcases List.mem_cons.1 hs with rfl | hs
      · cases hc
      · exact (ih hs hc).imp_left (List.mem_cons_of_mem x)
    · next hx =>
      obtain ⟨t, ts, ht⟩ := List.exists_cons_of_ne_nil (List.splitOnP_ne_nil p cs)
      rw [ht, List.modifyHead_cons] at hs
      rw [ht] at ih
      rcases List.mem_cons.1 hs with rfl | hs
      · rcases List.mem_cons.1 hc with rfl | hc
        · exact ⟨List.mem_cons_self, by simpa using hx⟩
        · exact (ih List.mem_cons_self hc).imp_left (List.mem_cons_of_mem x)
      · exact (ih (List.mem_cons_of_mem t hs) hc).imp_left (List.mem_cons_of_mem x)

theorem splitOnP_joinWith (hd : p d = true) {ps : List (List Char)} (hne : ps ≠ [])
    (h : ∀ s ∈ ps, ∀ c ∈ s, p c = false) : (joinWith d ps).splitOnP p = ps := by
  induction ps with
  | nil => exact absurd rfl hne
  | cons s ps ih =>
    rw [List.forall_mem_cons] at h
    cases ps with
    | nil => exact List.splitOnP_eq_singleton h.1
    | cons t ts =>
      rw [joinWith_cons (List.cons_ne_nil t ts), List.splitOnP_append_cons_of_forall_mem h.1 d hd,
        ih (List.cons_ne_nil t ts) h.2]

theorem mem_joinWith {ps : List (List Char)} {c : Char} (hc : c ∈ joinWith d ps) :
    c = d ∨ ∃ s ∈ ps, c ∈ s := by
  induction ps with
  | nil => cases hc
  | cons s ps ih =>
    cases ps with
    | nil => exact .inr ⟨s, List.mem_cons_self, hc⟩
    | cons t ts =>
      rw [joinWith_cons (List.cons_ne_nil t ts), List.mem_append, List.mem_cons] at hc
      rcases hc with hc | hc | hc
      · exact .inr ⟨s, List.mem_cons_self, hc⟩
      · exact .inl hc
      · exact (ih hc).imp_right fun ⟨x, hx, hcx⟩ => ⟨x, List.mem_cons_of_mem s hx, hcx⟩

theorem Host.splitOn_joinWith {ps : List (List Char)} (hne : ps ≠ []) (h : ∀ s ∈ ps, d ∉ s) :
    splitOn d (joinWith d ps) = ps := by
  rw [splitOn_eq]
  refine splitOnP_joinWith (by simp) hne fun s hs c hc => ?_
  have : c ≠ d := fun e => h s hs (e ▸ hc)
  simpa using this

theorem Host.splitOn_of_not_mem (h : d ∉ cs) : splitOn d cs = [cs] :=
  splitOn_joinWith (List.cons_ne_nil cs []) fun _ hs => List.mem_singleton.1 hs ▸ h

theorem Host.not_mem_of_splitOn {s : List Char} (hs : s ∈ splitOn d cs) : d ∉ s := by
  intro hd
  rw [splitOn_eq] at hs
  simpa using (mem_of_splitOnP hs hd).2

theorem Host.splitOn_ne_nil (d : Char) (cs : List Char) : splitOn d cs ≠ [] := by
  rw [splitOn_eq]
  exact List.splitOnP_ne_nil _ cs

/-- A text without the separator is all behind its last one. -/
theorem afterLast_of_not_mem (h : d ∉ cs) : (cs.reverse.takeWhile (· ≠ d)).reverse = cs := by
  have hall : ∀ c ∈ cs.reverse, decide (c ≠ d) = true := fun c hc =>
    decide_eq_true fun e => h (e ▸ List.mem_reverse.1 hc)
  rw [List.takeWhile_eq_self_iff.2 hall, List.reverse_reverse]

theorem afterLast_append (before : List Char) (h : d ∉ cs) :
    ((before ++ d :: cs).reverse.takeWhile (· ≠ d)).reverse = cs := by
  have hall : ∀ c ∈ cs.reverse, decide (c ≠ d) = true := fun c hc =>
    decide_eq_true fun e => h (e ▸ List.mem_reverse.1 hc)
  rw [List.reverse_append, List.reverse_cons, List.append_assoc,
    List.takeWhile_append_of_pos hall, List.reverse_append]
  simp

end Liveness.Url
