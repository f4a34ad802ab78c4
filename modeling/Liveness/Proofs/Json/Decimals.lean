import Liveness.Proofs.Json.Numbers

/-! Numbers that are read as natural: exactly the decimals of a word, without a sign, a fraction
or an exponent. -/

namespace Liveness.Json

open Text

variable {c : Char} {cs ds rest whole : List Char} {k n s u : Nat} {negative : Bool}

theorem digitValue_digitChar : ∀ d < 10, digitValue (Nat.digitChar d) = d := by decide

/-- The digits of a word fit, each time with those before them. -/
theorem appendDigits_toDigits {n : Nat} (hn : n ≤ maxWord) (es : List Char) :
    appendDigits 0 0 (Nat.toDigits 10 n ++ es) =
      appendDigits n (Nat.toDigits 10 n).length es := by
  induction n using Nat.strongRecOn generalizing es with
  | _ n ih =>
    rw [Nat.toDigits_eq_if (by decide)]
    split
    · next hlt =>
      rw [List.singleton_append, appendDigits, digitValue_digitChar n hlt, Nat.mul_zero,
        Nat.zero_add, if_pos hn]
      rfl
    · next hge =>
      have hback : 10 * (n / 10) + n % 10 = n := Nat.div_add_mod n 10
      rw [List.append_assoc, ih (n / 10) (by omega) (by omega), List.singleton_append,
        appendDigits, digitValue_digitChar _ (Nat.mod_lt n (by decide)), hback, if_pos hn,
        List.length_append]
      rfl

theorem finish_toDigits {n : Nat} (hn : n ≤ maxWord) (rest : List Char) :
    finish ⟨false, Nat.toDigits 10 n, [], none⟩ rest = .ok (.natural n, rest) := by
  have h := appendDigits_toDigits hn []
  rw [List.append_nil, appendDigits] at h
  simp [finish, Numeral.toInteger?, h]

theorem readAfterWhole_of_ends {whole : List Char} (hrest : EndsNumber rest) :
    readAfterWhole false whole rest = finish ⟨false, whole, [], none⟩ rest := by
  cases rest with
  | nil => rfl
  | cons c r =>
    obtain ⟨-, hdot, he, hE⟩ := hrest c rfl
    unfold readAfterWhole
    split
    · next h => cases h; exact absurd rfl hdot
    · simp [startsExponent, he, hE]

theorem isDigit_of_mem_decimal {n : Nat} {c : Char} (hc : c ∈ Nat.toDigits 10 n) :
    c.isDigit = true :=
  Nat.isDigit_of_mem_toDigits (by decide) (by decide) hc

/-- Only zero is written with a zero in front. -/
theorem head?_toDigits {n : Nat} (hn : 0 < n) : (Nat.toDigits 10 n).head? ≠ some '0' := by
  induction n using Nat.strongRecOn with
  | _ n ih =>
    have hdigits : ∀ d < 10, 0 < d → Nat.digitChar d ≠ '0' := by decide
    rw [Nat.toDigits_eq_if (by decide)]
    split
    · next hlt => simpa using hdigits n hlt hn
    · next hge =>
      have hfront := ih (n / 10) (by omega) (by omega)
      obtain ⟨c, r, hcr⟩ :=
        List.exists_cons_of_ne_nil (Nat.toDigits_ne_nil (b := 10) (n := n / 10))
      rw [hcr] at hfront ⊢
      exact hfront

theorem readNumber_toDigits {n : Nat} (hn : n ≤ maxWord) (hrest : EndsNumber rest) :
    readNumber false (Nat.toDigits 10 n ++ rest) = .ok (.natural n, rest) := by
  have hend : readAfterWhole false (Nat.toDigits 10 n) rest = .ok (.natural n, rest) := by
    rw [readAfterWhole_of_ends hrest, finish_toDigits hn]
  rcases Nat.eq_zero_or_pos n with rfl | hpos
  · have hnext : rest.head?.any Char.isDigit = false := by
      cases rest with
      | nil => rfl
      | cons c r => exact (hrest c rfl).1
    change readNumber false ('0' :: rest) = _
    rw [readNumber, if_pos rfl, hnext]
    exact hend
  · have hspan : spanDigits (Nat.toDigits 10 n ++ rest) = (Nat.toDigits 10 n, rest) :=
      spanDigits_append (fun c hc => isDigit_of_mem_decimal hc) hrest.noDigit
    have hhead := head?_toDigits hpos
    obtain ⟨c, r, hcr⟩ := List.exists_cons_of_ne_nil (Nat.toDigits_ne_nil (b := 10) (n := n))
    have hc : c.isDigit = true := isDigit_of_mem_decimal (hcr ▸ List.mem_cons_self)
    rw [hcr] at hspan hhead hend ⊢
    rw [List.cons_append] at hspan ⊢
    rw [readNumber, if_neg (by simpa using hhead), if_pos hc, hspan]
    exact hend

theorem digitChar_digitValue (hc : c.isDigit = true) :
    digitValue c < 10 ∧ Nat.digitChar (digitValue c) = c := by
  have key : ∀ n < 0x80, (Char.ofNat n).isDigit = true →
      digitValue (Char.ofNat n) < 10 ∧
        Nat.digitChar (digitValue (Char.ofNat n)) = Char.ofNat n := by decide
  have hbound : c.toNat < 0x80 := by
    simp only [Char.isDigit, Bool.and_eq_true, decide_eq_true_eq, UInt32.le_iff_toNat_le] at hc
    exact Nat.lt_of_le_of_lt hc.2 (by decide)
  exact forall_char_lt (P := fun c => c.isDigit = true →
    digitValue c < 10 ∧ Nat.digitChar (digitValue c) = c) key c hbound hc

/-- Digits that all fit are those of the number that they are appended to, which has some. -/
theorem toDigits_of_appendDigits (hn : 0 < n) (hmax : n ≤ maxWord)
    (hds : ∀ d ∈ ds, d.isDigit = true) (h : appendDigits n k ds = (s, u))
    (hu : k + ds.length ≤ u) : Nat.toDigits 10 n ++ ds = Nat.toDigits 10 s ∧ s ≤ maxWord := by
  induction ds generalizing n k with
  | nil =>
    cases h
    exact ⟨List.append_nil _, hmax⟩
  | cons d ds ih =>
    obtain ⟨hd, hds⟩ := List.forall_mem_cons.1 hds
    obtain ⟨hlt, hchar⟩ := digitChar_digitValue hd
    rw [List.length_cons] at hu
    rw [appendDigits] at h
    split at h
    · next hfits =>
      have hstep : Nat.toDigits 10 n ++ [d] = Nat.toDigits 10 (10 * n + digitValue d) := by
        rw [← Nat.toDigits_append_toDigits (by decide) hn hlt, Nat.toDigits_of_lt_base hlt, hchar]
      rw [← List.singleton_append, ← List.append_assoc, hstep]
      exact ih (by omega) hfits hds h (by omega)
    · cases h
      omega

/-- Whole digits that all fit are the decimals of a word. -/
theorem toDigits_of_whole (hw : Whole whole) (h : appendDigits 0 0 whole = (s, u))
    (hu : whole.length ≤ u) : whole = Nat.toDigits 10 s ∧ s ≤ maxWord := by
  cases hw with
  | zero =>
    cases h
    exact ⟨rfl, by decide⟩
  | @digits d ds hd hds =>
    obtain ⟨hdigit, hothers⟩ := List.forall_mem_cons.1 hds.2
    obtain ⟨hlt, hchar⟩ := digitChar_digitValue hdigit
    have hsmall : 10 * 0 + digitValue d = digitValue d := by omega
    have hfits : digitValue d ≤ maxWord := Nat.le_trans (Nat.le_of_lt hlt) (by decide)
    have hpos : 0 < digitValue d := by
      refine Nat.pos_of_ne_zero fun hzero => hd ?_
      rw [← hchar, hzero]
      rfl
    rw [appendDigits, hsmall, if_pos hfits] at h
    rw [List.length_cons] at hu
    have hdigits := toDigits_of_appendDigits hpos hfits hothers h (by omega)
    rwa [Nat.toDigits_of_lt_base hlt, hchar] at hdigits

/-- Only plain digits become a natural number. -/
theorem plain_of_finish {n : Numeral} (h : finish n cs = .ok (.natural s, rest)) :
    n.fraction = [] ∧ n.exponent = none ∧ n.negative = false ∧ rest = cs ∧
      ∃ used, appendDigits 0 0 n.whole = (s, used) ∧ n.whole.length ≤ used := by
  unfold finish at h
  split at h
  · next v hv =>
    rw [Except.ok.injEq, Prod.mk.injEq] at h
    obtain ⟨rfl, rfl⟩ := h
    unfold Numeral.toInteger? at hv
    cases happ : appendDigits 0 0 n.whole with
    | mk s' used =>
      rw [happ] at hv
      dsimp only at hv
      split at hv
      · cases hv
      · next hplain =>
        simp only [Bool.or_eq_true, decide_eq_true_eq, not_or, ne_eq, not_not, Nat.not_lt,
          Option.not_isSome_iff_eq_none] at hplain
        split at hv
        · next hsign =>
          cases hv
          exact ⟨hplain.1.1, hplain.1.2, by simpa using hsign, rfl, used, rfl, hplain.2⟩
        · split at hv <;> cases hv
  · split at h <;> cases h

theorem readExponent_ne_natural {n : Numeral} :
    readExponent n cs ≠ .ok (.natural s, rest) := by
  intro h
  unfold readExponent at h
  dsimp only at h
  split at h
  · cases h
  · split at h
    · split at h
      · cases (plain_of_finish h).2.1
      · split at h <;> cases h
    · cases h

theorem plain_of_readAfterWhole (hcs : NoDigit cs)
    (h : readAfterWhole negative whole cs = .ok (.natural s, rest)) :
    negative = false ∧ rest = cs ∧ EndsNumber cs ∧
      ∃ used, appendDigits 0 0 whole = (s, used) ∧ whole.length ≤ used := by
  unfold readAfterWhole at h
  split at h
  · next r =>
    dsimp only at h
    split at h
    · cases h
    · next hne =>
      split at h
      · exact absurd h readExponent_ne_natural
      · exact absurd (plain_of_finish h).1 hne
  · next hdot =>
    dsimp only at h
    split at h
    · exact absurd h readExponent_ne_natural
    · next hstarts =>
      obtain ⟨-, -, hsign, hrest, hdigits⟩ := plain_of_finish h
      refine ⟨hsign, hrest, fun c hc => ?_, hdigits⟩
      rw [Option.mem_def] at hc
      simp only [startsExponent, hc, Bool.or_eq_true, decide_eq_true_eq, not_or,
        Option.some.injEq] at hstarts
      obtain ⟨r, rfl⟩ := List.head?_eq_some_iff.1 hc
      refine ⟨hcs c hc, ?_, hstarts.1, hstarts.2⟩
      rintro rfl
      exact hdot r rfl

/-- A natural number was written in decimals, and nothing went on with it. -/
theorem digits_of_readNumber (h : readNumber negative cs = .ok (.natural s, rest)) :
    negative = false ∧ cs = Nat.toDigits 10 s ++ rest ∧ s ≤ maxWord ∧ EndsNumber rest := by
  have found : ∀ {whole r : List Char}, Whole whole → NoDigit r →
      readAfterWhole negative whole r = .ok (.natural s, rest) →
      negative = false ∧ whole ++ r = Nat.toDigits 10 s ++ rest ∧ s ≤ maxWord ∧
        EndsNumber rest := by
    intro whole r hw hr h
    obtain ⟨hsign, rfl, hends, used, happ, hused⟩ := plain_of_readAfterWhole hr h
    obtain ⟨hdigits, hmax⟩ := toDigits_of_whole hw happ hused
    exact ⟨hsign, by rw [hdigits], hmax, hends⟩
  unfold readNumber at h
  split at h
  · cases h
  · next c r =>
    split at h
    · next hc =>
      split at h
      · cases h
      · next hnext =>
        subst hc
        refine found .zero (fun d hd => ?_) h
        rw [Option.mem_def] at hd
        rw [hd] at hnext
        exact Bool.eq_false_iff.2 hnext
    · next hc =>
      split at h
      · next hdigit =>
        obtain ⟨heq, hdigits, hno⟩ := spanDigits_eq r
        have hspan : spanDigits (c :: r) = (c :: (spanDigits r).1, (spanDigits r).2) := by
          simp [spanDigits, hdigit]
        rw [hspan] at h
        have hall := found (.digits hc ⟨List.cons_ne_nil _ _,
          List.forall_mem_cons.2 ⟨hdigit, hdigits⟩⟩) hno h
        rwa [List.cons_append, ← heq] at hall
      · cases h

theorem toDigits_inj {n n' : Nat} (h : Nat.toDigits 10 n = Nat.toDigits 10 n') : n = n' := by
  rw [← Nat.ofDigitChars_ten_toDigits (n := n), h, Nat.ofDigitChars_ten_toDigits]

/-- The decimals of a number have the form of a number. -/
theorem unsigned_toDigits (n : Nat) : Unsigned (Nat.toDigits 10 n) := by
  have hwhole : Whole (Nat.toDigits 10 n) := by
    rcases Nat.eq_zero_or_pos n with rfl | hpos
    · exact .zero
    · obtain ⟨d, ds, hds⟩ := List.exists_cons_of_ne_nil (Nat.toDigits_ne_nil (b := 10) (n := n))
      have hhead := head?_toDigits hpos
      have hdigits : ∀ c ∈ d :: ds, c.isDigit = true := fun c hc =>
        isDigit_of_mem_decimal (hds ▸ hc)
      rw [hds] at hhead ⊢
      exact .digits (by simpa using hhead) ⟨List.cons_ne_nil _ _, hdigits⟩
  have hplain := Unsigned.mk hwhole .none .none
  rwa [List.append_nil, List.append_nil] at hplain

end Liveness.Json
