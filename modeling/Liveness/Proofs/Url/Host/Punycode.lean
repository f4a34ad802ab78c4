import Liveness.Proofs.Text.Characters
import Liveness.Proofs.Url.Split
import Liveness.Url.Host.Punycode
import Mathlib.Tactic.Ring

/-! Punycode is read back. The reader keeps abreast of the writer: behind each number it has
the characters that the writer has placed, and what lies between the two is the distance
that the writer has yet to write. -/

namespace Liveness.Url.Host.Punycode

theorem digitValue?_digitChar : ∀ d < 36, digitValue? (digitChar d) = some d := by decide

theorem digitChar_ne_hyphen : ∀ d < 36, digitChar d ≠ '-' := by decide

theorem exists_digit_of_mem {c : Char} {bias k n : Nat} (h : c ∈ encodeNumber bias k n) :
    ∃ d < 36, c = digitChar d := by
  fun_induction encodeNumber bias k n with
  | case1 k n hn =>
    have := threshold_bounds k bias
    exact ⟨n, by omega, List.mem_singleton.1 h⟩
  | case2 k n hn ih =>
    have := threshold_bounds k bias
    have := Nat.mod_lt (n - threshold k bias) (show 36 - threshold k bias > 0 by omega)
    rcases List.mem_cons.1 h with h | h
    · exact ⟨_, by omega, h⟩
    · exact ih h

theorem encodeNumber_ne_nil (bias k n : Nat) : encodeNumber bias k n ≠ [] := by
  rw [encodeNumber]
  split <;> simp

/-- Reading on when a number has been read. -/
def placeNext (rest : List Char) (point i value : Nat) (out : List Char) :
    Option (List Char) :=
  let size := out.length + 1
  let spot := (i + value) % size
  let point := point + (i + value) / size
  if point.isValidChar then
    decodeNumbers rest point (spot + 1) 0 1 36 (adapt value size (i = 0))
      (out.take spot ++ Char.ofNat point :: out.drop spot)
  else none

theorem decodeNumbers_encodeNumber (rest : List Char) (point i value weight k bias n : Nat)
    (out : List Char) :
    decodeNumbers (encodeNumber bias k n ++ rest) point i value weight k bias out =
      placeNext rest point i (value + n * weight) out := by
  fun_induction encodeNumber bias k n generalizing value weight with
  | case1 k n hn =>
    have := threshold_bounds k bias
    rw [List.cons_append, decodeNumbers, digitValue?_digitChar n (by omega)]
    simp only [hn, if_true]
    rfl
  | case2 k n hn ih =>
    have hb := threshold_bounds k bias
    have hlt := Nat.mod_lt (n - threshold k bias) (show 36 - threshold k bias > 0 by omega)
    have hsum := Nat.mod_add_div (n - threshold k bias) (36 - threshold k bias)
    rw [List.cons_append, decodeNumbers, digitValue?_digitChar _ (by omega)]
    simp only [show ¬ threshold k bias + (n - threshold k bias) % (36 - threshold k bias) <
      threshold k bias by omega, if_false]
    rw [ih]
    have hvalue : ∀ t q r : Nat, (t + r) * weight + q * (weight * (36 - t)) =
        (t + (r + (36 - t) * q)) * weight := fun t q r => by ring
    rw [Nat.add_assoc, hvalue, hsum, Nat.add_sub_of_le (Nat.le_of_not_lt hn)]

/-- The characters that have been placed while the writer is at the code point `m`, between
two parts of the text. -/
def placed (m : Nat) (before after : List Char) : List Char :=
  before.filter (·.toNat ≤ m) ++ after.filter (·.toNat < m)

/-- The writer has written `numbers` behind `start`; having read them the reader is at index
`i` of the code point `point`, with what has been placed. -/
structure Abreast (start basics : List Char) (m : Nat) (before after : List Char)
    (p : Progress) (numbers : List Char) (point i : Nat) : Prop where
  written : p.written = start ++ numbers
  read : ∀ rest, decodeNumbers (numbers ++ rest) firstPoint 0 0 1 36 firstBias basics =
    decodeNumbers rest point i 0 1 36 p.bias (placed m before after)
  count : p.count = (placed m before after).length
  distance : point * (p.count + 1) + (i + p.delta) =
    m * (p.count + 1) + (before.filter (·.toNat ≤ m)).length
  first : i = 0 ↔ p.count = basics.length
  basics_le : basics.length ≤ p.count
  digits : ∀ c ∈ numbers, ∃ d < 36, c = digitChar d

variable {start basics : List Char} {m : Nat} {before after : List Char} {p : Progress}
  {numbers : List Char} {point i : Nat}

/-- A character that is passed is placed, or will not be placed at this code point. -/
theorem Abreast.pass {c : Char} (h : Abreast start basics m before (c :: after) p numbers point i)
    (hc : c.toNat ≠ m) : Abreast start basics m (before ++ [c]) after
      (p.visit basics.length m c) numbers point i := by
  have hplaced : placed m (before ++ [c]) after = placed m before (c :: after) := by
    rcases Nat.lt_or_gt_of_ne hc with hlt | hgt
    · simp [placed, hlt, Nat.le_of_lt hlt]
    · simp [placed, Nat.not_lt_of_gt hgt, Nat.not_le_of_gt hgt]
  rcases Nat.lt_or_gt_of_ne hc with hlt | hgt
  · have hvisit : p.visit basics.length m c = { p with delta := p.delta + 1 } := if_pos hlt
    have hd := h.distance
    rw [hvisit]
    refine ⟨h.written, hplaced ▸ h.read, hplaced ▸ h.count, ?_, h.first, h.basics_le, h.digits⟩
    simp only [List.filter_append, List.length_append, List.filter_cons, Nat.le_of_lt hlt]
    simp
    omega
  · have hvisit : p.visit basics.length m c = p := by
      rw [Progress.visit, if_neg (Nat.not_lt_of_gt hgt), if_neg hc]
    rw [hvisit]
    refine ⟨h.written, hplaced ▸ h.read, hplaced ▸ h.count, ?_, h.first, h.basics_le, h.digits⟩
    simpa [Nat.not_le_of_gt hgt] using h.distance

/-- The distance that is written leads the reader to the writer's place. -/
theorem Abreast.spot {c : Char} (h : Abreast start basics m before (c :: after) p numbers point i) :
    point + (i + p.delta) / (p.count + 1) = m ∧
      (i + p.delta) % (p.count + 1) = (before.filter (·.toNat ≤ m)).length := by
  have hlt : (before.filter (·.toNat ≤ m)).length < p.count + 1 := by
    rw [h.count, placed, List.length_append]
    omega
  have hd := h.distance
  generalize (before.filter (·.toNat ≤ m)).length = b at hd hlt ⊢
  generalize p.count + 1 = size at hd hlt ⊢
  have hle : point ≤ m := by
    refine Nat.le_of_not_lt fun hgt => ?_
    have := Nat.mul_le_mul_right size (show m + 1 ≤ point from hgt)
    rw [Nat.add_mul] at this
    omega
  obtain ⟨q, rfl⟩ := Nat.exists_eq_add_of_le hle
  have heq : i + p.delta = b + size * q := by
    rw [Nat.add_mul, Nat.mul_comm q] at hd
    omega
  rw [heq, Nat.add_mul_div_left _ _ (by omega), Nat.add_mul_mod_self_left,
    Nat.div_eq_of_lt hlt, Nat.mod_eq_of_lt hlt]
  omega

theorem Abreast.write {c : Char} (h : Abreast start basics m before (c :: after) p numbers point i)
    (hc : c.toNat = m) : Abreast start basics m (before ++ [c]) after
      (p.visit basics.length m c) (numbers ++ encodeNumber p.bias 36 p.delta) m
      ((before.filter (·.toNat ≤ m)).length + 1) := by
  have hvisit : p.visit basics.length m c = ⟨p.written ++ encodeNumber p.bias 36 p.delta, 0,
      adapt p.delta (p.count + 1) (p.count = basics.length), p.count + 1⟩ := by
    rw [Progress.visit, if_neg (by omega), if_pos hc]
  have hold : placed m before (c :: after) =
      before.filter (·.toNat ≤ m) ++ after.filter (·.toNat < m) := by
    simp [placed, hc]
  have hnew : placed m (before ++ [c]) after =
      before.filter (·.toNat ≤ m) ++ c :: after.filter (·.toNat < m) := by
    simp [placed, hc]
  have hcount := h.count
  rw [hvisit]
  refine ⟨by rw [h.written, List.append_assoc], fun rest => ?_, ?_, ?_, ?_, ?_, ?_⟩
  · obtain ⟨hpoint, hspot⟩ := h.spot
    have hvalid : m.isValidChar := hc ▸ c.valid
    have hfirst : decide (i = 0) = decide (p.count = basics.length) := decide_eq_decide.2 h.first
    rw [List.append_assoc, h.read, decodeNumbers_encodeNumber, Nat.zero_add, Nat.mul_one,
      placeNext, ← hcount]
    simp only [hpoint, hspot, hvalid, if_true, hfirst]
    rw [hnew, hold, List.take_left, List.drop_left, ← hc, Char.ofNat_toNat]
  · rw [hnew, hcount, hold]
    simp
    omega
  · simp [hc]
  · have := h.basics_le
    simp
    omega
  · exact Nat.le_succ_of_le h.basics_le
  · intro x hx
    rcases List.mem_append.1 hx with hx | hx
    · exact h.digits x hx
    · exact exists_digit_of_mem hx

theorem Abreast.visit {c : Char}
    (h : Abreast start basics m before (c :: after) p numbers point i) :
    ∃ numbers point i, Abreast start basics m (before ++ [c]) after
      (p.visit basics.length m c) numbers point i := by
  by_cases hc : c.toNat = m
  · exact ⟨_, _, _, h.write hc⟩
  · exact ⟨_, _, _, h.pass hc⟩

/-- All characters of the text are visited for a code point. -/
theorem Abreast.visits (h : Abreast start basics m before after p numbers point i) :
    ∃ numbers point i, Abreast start basics m (before ++ after) []
      (after.foldl (Progress.visit basics.length m) p) numbers point i := by
  induction after generalizing before p numbers point i with
  | nil =>
    rw [List.append_nil]
    exact ⟨_, _, _, h⟩
  | cons c after ih =>
    obtain ⟨_, _, _, h⟩ := h.visit
    obtain ⟨_, _, _, h⟩ := ih h
    rw [List.append_assoc, List.singleton_append] at h
    exact ⟨_, _, _, h⟩

variable {cs : List Char}

/-- The writer goes to a code point; those between are not in the text. -/
theorem Abreast.advance {n : Nat} (h : Abreast start basics n [] cs p numbers point i)
    (hn : n ≤ m) (hgap : ∀ c ∈ cs, c.toNat < n ∨ m ≤ c.toNat) :
    Abreast start basics m [] cs { p with delta := p.delta + (m - n) * (p.count + 1) }
      numbers point i := by
  have hplaced : placed m [] cs = placed n [] cs := by
    simp only [placed, List.filter_nil, List.nil_append]
    refine List.filter_congr fun c hc => ?_
    have := hgap c hc
    simp
    omega
  have hd := h.distance
  refine ⟨h.written, hplaced ▸ h.read, hplaced ▸ h.count, ?_, h.first, h.basics_le, h.digits⟩
  have hm : m * (p.count + 1) = n * (p.count + 1) + (m - n) * (p.count + 1) := by
    rw [← Nat.add_mul]
    congr 1
    omega
  simp only [List.filter_nil, List.length_nil, Nat.add_zero] at hd ⊢
  omega

/-- Behind the end of the text is its start, at the next code point. -/
theorem Abreast.turn (h : Abreast start basics m cs [] p numbers point i) :
    Abreast start basics (m + 1) [] cs { p with delta := p.delta + 1 } numbers point i := by
  have hplaced : placed (m + 1) [] cs = placed m cs [] := by
    simp only [placed, List.filter_nil, List.nil_append, List.append_nil, Nat.lt_succ_iff]
  have hd := h.distance
  have hcount := h.count
  simp only [placed, List.filter_nil, List.append_nil] at hcount
  refine ⟨h.written, hplaced ▸ h.read, hplaced ▸ h.count, ?_, h.first, h.basics_le, h.digits⟩
  simp only [List.filter_nil, List.length_nil, Nat.add_mul] at hd ⊢
  omega

/-- The writer goes through all code points of the text, and the reader ends with it. -/
theorem Abreast.place {ms : List Nat} {n : Nat}
    (h : Abreast start basics n [] cs p numbers point i) (hms : ms.Pairwise (· < ·))
    (hn : ∀ m ∈ ms, n ≤ m) (hall : ∀ c ∈ cs, c.toNat < n ∨ c.toNat ∈ ms) :
    ∃ last numbers point i, (∀ c ∈ cs, c.toNat < last) ∧
      Abreast start basics last [] cs (Punycode.place cs basics.length ms n p) numbers point i := by
  induction ms generalizing n p numbers point i with
  | nil => exact ⟨n, _, _, _, fun c hc => (hall c hc).resolve_right List.not_mem_nil, h⟩
  | cons m ms ih =>
    rw [List.pairwise_cons] at hms
    have hgap : ∀ c ∈ cs, c.toNat < n ∨ m ≤ c.toNat := by
      intro c hc
      refine (hall c hc).imp_right fun hm => ?_
      rcases List.mem_cons.1 hm with hm | hm
      · exact Nat.le_of_eq hm.symm
      · exact Nat.le_of_lt (hms.1 _ hm)
    obtain ⟨_, _, _, h⟩ := (h.advance (hn m List.mem_cons_self) hgap).visits
    rw [List.nil_append] at h
    refine ih h.turn hms.2 (fun k hk => hms.1 k hk) fun c hc => ?_
    rcases hall c hc with hlt | hm
    · have := hn m List.mem_cons_self
      exact .inl (by omega)
    · rcases List.mem_cons.1 hm with hm | hm
      · exact .inl (by omega)
      · exact .inr hm

theorem mem_insertPoint {n k : Nat} {ms : List Nat} : k ∈ insertPoint n ms ↔ k = n ∨ k ∈ ms := by
  induction ms with
  | nil => simp [insertPoint]
  | cons m ms ih =>
    rw [insertPoint]
    split
    · exact List.mem_cons
    · split
      · next h => simp [h]
      · rw [List.mem_cons, ih, List.mem_cons]
        exact or_left_comm

theorem insertPoint_pairwise {n : Nat} {ms : List Nat} (h : ms.Pairwise (· < ·)) :
    (insertPoint n ms).Pairwise (· < ·) := by
  induction ms with
  | nil => exact List.pairwise_singleton ..
  | cons m ms ih =>
    rw [insertPoint]
    have hm := List.pairwise_cons.1 h
    split
    · next hlt =>
      refine List.pairwise_cons.2 ⟨fun k hk => ?_, h⟩
      rcases List.mem_cons.1 hk with rfl | hk
      · exact hlt
      · exact Nat.lt_trans hlt (hm.1 k hk)
    · split
      · exact h
      · refine List.pairwise_cons.2 ⟨fun k hk => ?_, ih hm.2⟩
        rcases mem_insertPoint.1 hk with rfl | hk
        · omega
        · exact hm.1 k hk

theorem points_pairwise (cs : List Char) : (points cs).Pairwise (· < ·) := by
  induction cs with
  | nil => exact .nil
  | cons c cs ih =>
    rw [points, List.foldr_cons]
    split
    · exact ih
    · exact insertPoint_pairwise ih

theorem mem_points {k : Nat} {cs : List Char} :
    k ∈ points cs ↔ ∃ c ∈ cs, firstPoint ≤ c.toNat ∧ k = c.toNat := by
  induction cs with
  | nil => simp [points]
  | cons c cs ih =>
    simp only [List.mem_cons, exists_eq_or_imp, ← ih]
    rw [points, List.foldr_cons, ← points]
    split
    · next hc =>
      rw [or_iff_right]
      rintro ⟨h, -⟩
      omega
    · next hc =>
      rw [mem_insertPoint, and_iff_right (Nat.le_of_not_lt hc)]

theorem encode_spec (cs : List Char) :
    ∃ numbers, encode cs =
        (if cs.filter (·.toNat < firstPoint) = [] then []
          else cs.filter (·.toNat < firstPoint) ++ ['-']) ++ numbers ∧
      decodeNumbers numbers firstPoint 0 0 1 36 firstBias (cs.filter (·.toNat < firstPoint)) =
        some cs ∧
      (∀ c ∈ numbers, ∃ d < 36, c = digitChar d) := by
  generalize hb : cs.filter (·.toNat < firstPoint) = basics
  generalize hs : (if basics = [] then [] else basics ++ ['-']) = start
  have h₀ : Abreast start basics firstPoint [] cs ⟨start, 0, firstBias, basics.length⟩ []
      firstPoint 0 := by
    refine ⟨(List.append_nil _).symm, fun rest => ?_, ?_, rfl, by simp, Nat.le_refl _, by simp⟩
    · rw [placed, hb]
      rfl
    · rw [placed, hb]
      rfl
  obtain ⟨last, numbers, point, i, hlast, h⟩ := h₀.place (points_pairwise cs)
    (fun m hm => by obtain ⟨c, -, hc, rfl⟩ := mem_points.1 hm; exact hc)
    (fun c hc => (Nat.lt_or_ge c.toNat firstPoint).imp_right fun hle =>
      mem_points.2 ⟨c, hc, hle, rfl⟩)
  have hall : placed last [] cs = cs := by
    rw [placed, List.filter_nil, List.nil_append, List.filter_eq_self]
    simpa using hlast
  refine ⟨numbers, ?_, ?_, h.digits⟩
  · rw [encode]
    simp only [hb, hs]
    exact h.written
  · have := h.read []
    rwa [List.append_nil, hall, decodeNumbers, if_pos rfl] at this

theorem cut_of_not_mem {cs : List Char} (h : '-' ∉ cs) : cut cs = ([], cs) := by
  rw [cut, afterLast_of_not_mem h]
  exact if_neg (by omega)

theorem cut_append {basic numbers : List Char} (hb : basic ≠ []) (h : '-' ∉ numbers) :
    cut (basic ++ '-' :: numbers) = (basic, numbers) := by
  have hlen := List.length_pos_iff.2 hb
  have htake : basic.length + (numbers.length + 1) - numbers.length - 1 = basic.length := by omega
  rw [cut, afterLast_append basic h]
  simp only [List.length_append, List.length_cons]
  rw [if_pos (by omega), htake, List.take_left]

theorem decode?_encode (cs : List Char) : decode? (encode cs) = some cs := by
  obtain ⟨numbers, he, hd, hdigits⟩ := encode_spec cs
  have hhyphen : '-' ∉ numbers := by
    intro hm
    obtain ⟨d, hd, hc⟩ := hdigits _ hm
    exact digitChar_ne_hyphen d hd hc.symm
  have hcut : cut (encode cs) = (cs.filter (·.toNat < firstPoint), numbers) := by
    rw [he]
    split
    · next hb => rw [hb, List.nil_append, cut_of_not_mem hhyphen]
    · next hb => rw [List.append_assoc, List.singleton_append, cut_append hb hhyphen]
  rw [decode?, hcut]
  simp [hd]

/-- Code is made of the ASCII characters of the text, of hyphens and of digits. -/
theorem mem_encode {c : Char} (h : c ∈ encode cs) :
    (c ∈ cs ∧ c.toNat < firstPoint) ∨ c = '-' ∨ ∃ d < 36, c = digitChar d := by
  obtain ⟨numbers, he, -, hdigits⟩ := encode_spec cs
  rw [he, List.mem_append] at h
  rcases h with h | h
  · split at h
    · cases h
    · rcases List.mem_append.1 h with h | h
      · obtain ⟨hc, hlt⟩ := List.mem_filter.1 h
        exact .inl ⟨hc, by simpa using hlt⟩
      · exact .inr (.inl (List.mem_singleton.1 h))
  · exact .inr (.inr (hdigits c h))

/-- Where there is something to place the code ends in a digit. -/
theorem getLast?_encode (h : ∃ c ∈ cs, firstPoint ≤ c.toNat) :
    ∃ d < 36, (encode cs).getLast? = some (digitChar d) := by
  obtain ⟨numbers, he, hd, hdigits⟩ := encode_spec cs
  have hne : numbers ≠ [] := by
    rintro rfl
    rw [decodeNumbers, if_pos rfl, Option.some_inj, List.filter_eq_self] at hd
    obtain ⟨c, hc, hle⟩ := h
    have := hd c hc
    simp only [decide_eq_true_eq] at this
    omega
  obtain ⟨d, hlt, hlast⟩ := hdigits _ (List.getLast_mem hne)
  refine ⟨d, hlt, ?_⟩
  rw [he, List.getLast?_append, List.getLast?_eq_some_getLast hne, hlast, Option.some_or]

theorem mem_decodeNumbers {numbers out text : List Char} {point i value weight k bias : Nat}
    {c : Char} (h : decodeNumbers numbers point i value weight k bias out = some text)
    (hc : c ∈ text) : c ∈ out ∨ point ≤ c.toNat := by
  induction numbers generalizing point i value weight k bias out with
  | nil =>
    rw [decodeNumbers] at h
    split at h
    · cases h
      exact .inl hc
    · cases h
  | cons x numbers ih =>
    rw [decodeNumbers] at h
    split at h
    · cases h
    · dsimp only at h
      split at h
      · split at h
        · next hvalid =>
          rcases ih h with hm | hle
          · rcases List.mem_append.1 hm with hm | hm
            · exact .inl (List.mem_of_mem_take hm)
            · rcases List.mem_cons.1 hm with rfl | hm
              · rw [Text.toNat_ofNat hvalid]
                exact .inr (Nat.le_add_right ..)
              · exact .inl (List.mem_of_mem_drop hm)
          · exact .inr (Nat.le_trans (Nat.le_add_right ..) hle)
        · cases h
      · exact ih h

/-- What is read adds nothing of ASCII to the code. -/
theorem mem_decode? {code text : List Char} {c : Char} (h : decode? code = some text)
    (hc : c ∈ text) : c ∈ code ∨ firstPoint ≤ c.toNat := by
  rw [decode?] at h
  dsimp only at h
  split at h
  · refine (mem_decodeNumbers h hc).imp_left fun hm => ?_
    rw [cut] at hm
    split at hm
    · exact List.mem_of_mem_take hm
    · cases hm
  · cases h

end Liveness.Url.Host.Punycode
