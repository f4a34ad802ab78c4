import Liveness.Proofs.Json.Strings

/-! Passing over blanks, words and numbers. A number is passed over as far as it goes, so that
what comes next has to end it. -/

namespace Liveness.Json

variable {c : Char} {cs ds e f n r rest w : List Char}

theorem isBlank_iff : isBlank c = true ↔ c ∈ [' ', '\n', '\t', '\r'] := by
  simp [isBlank, or_assoc]

theorem Blanks.nil : Blanks [] := by
  intro c hc
  cases hc

theorem Blanks.append {w' : List Char} (h : Blanks w) (h' : Blanks w') : Blanks (w ++ w') :=
  List.forall_mem_append.2 ⟨h, h'⟩

/-- Blanks in front make no difference. -/
theorem skipBlanks_append (h : Blanks w) (cs : List Char) : skipBlanks (w ++ cs) = skipBlanks cs :=
  List.dropWhile_append_of_pos fun c hc => isBlank_iff.2 (h c hc)

theorem skipBlanks_of_blanks (h : Blanks w) : skipBlanks w = [] := by
  have happ := skipBlanks_append h []
  rwa [List.append_nil] at happ

theorem skipBlanks_cons (h : isBlank c = false) (r : List Char) :
    skipBlanks (c :: r) = c :: r :=
  List.dropWhile_cons_of_neg (by simp [h])

theorem blanks_of_skipBlanks (cs : List Char) : ∃ w, cs = w ++ skipBlanks cs ∧ Blanks w := by
  refine ⟨cs.takeWhile isBlank, (List.takeWhile_append_dropWhile).symm, ?_⟩
  intro c hc
  exact isBlank_iff.1 (List.all_eq_true.1 List.all_takeWhile c hc)

theorem not_isBlank_of_skipBlanks (h : skipBlanks cs = c :: r) : isBlank c = false := by
  have hhead := List.head_dropWhile_not isBlank (l := cs) (by rw [skipBlanks] at h; simp [h])
  rw [skipBlanks] at h
  simpa [h] using hhead

/-- The first character that is no blank, with the blanks in front of it. -/
theorem eq_of_skipBlanks (h : skipBlanks cs = c :: r) :
    ∃ w, cs = w ++ c :: r ∧ Blanks w ∧ isBlank c = false := by
  obtain ⟨w, hcs, hw⟩ := blanks_of_skipBlanks cs
  rw [h] at hcs
  exact ⟨w, hcs, hw, not_isBlank_of_skipBlanks h⟩

theorem readWord_eq_ok_iff {word : List Char} :
    readWord word cs = .ok rest ↔ cs = word ++ rest := by
  induction word generalizing cs with
  | nil => simp [readWord]
  | cons a word ih =>
    cases cs with
    | nil => simp [readWord]
    | cons c cs =>
      rw [readWord]
      split
      · next h => simp [h, ih]
      · next h => simp [h]

/-- Nothing that could belong to a number comes next. -/
def EndsNumber (rest : List Char) : Prop :=
  ∀ c ∈ rest.head?, c.isDigit = false ∧ c ≠ '.' ∧ c ≠ 'e' ∧ c ≠ 'E'

/-- What comes next is no digit. -/
def NoDigit (rest : List Char) : Prop := ∀ c ∈ rest.head?, c.isDigit = false

theorem EndsNumber.noDigit (h : EndsNumber rest) : NoDigit rest := fun c hc => (h c hc).1

theorem spanDigits_append {ds : List Char} (hds : ∀ c ∈ ds, c.isDigit = true)
    (hrest : NoDigit rest) : spanDigits (ds ++ rest) = (ds, rest) := by
  rw [spanDigits, List.takeWhile_append_of_pos hds, List.dropWhile_append_of_pos hds]
  cases rest with
  | nil => simp
  | cons c r =>
    have hc := hrest c rfl
    simp [hc]

theorem ne_of_isDigit {d : Char} (hc : c.isDigit = true) (hd : d.isDigit = false) : c ≠ d := by
  rintro rfl
  rw [hc] at hd
  cases hd

theorem endsNumber_cons (h : c.isDigit = false ∧ c ≠ '.' ∧ c ≠ 'e' ∧ c ≠ 'E') :
    EndsNumber (c :: rest) := by
  rintro _ ⟨⟩
  exact h

theorem EndsNumber.nil : EndsNumber [] := by
  intro c hc
  cases hc

/-- No blank goes on with a number. -/
theorem EndsNumber.blanks (hw : Blanks w) (h : EndsNumber rest) : EndsNumber (w ++ rest) := by
  cases w with
  | nil => exact h
  | cons c w =>
    have hblank := hw c List.mem_cons_self
    have key : ∀ c ∈ [' ', '\n', '\t', '\r'], c.isDigit = false ∧ c ≠ '.' ∧ c ≠ 'e' ∧ c ≠ 'E' := by
      simp
    exact endsNumber_cons (key c hblank)

theorem spanDigits_eq (cs : List Char) :
    cs = (spanDigits cs).1 ++ (spanDigits cs).2 ∧ (∀ d ∈ (spanDigits cs).1, d.isDigit = true) ∧
      NoDigit (spanDigits cs).2 := by
  refine ⟨(List.takeWhile_append_dropWhile).symm, List.all_eq_true.1 List.all_takeWhile, ?_⟩
  intro c hc
  have h := List.head?_dropWhile_not Char.isDigit cs
  rw [spanDigits] at hc
  rw [Option.mem_def.1 hc] at h
  simpa using h

theorem skipExponent_of_digits {sign : List Char} (hsign : sign ∈ [[], ['+'], ['-']])
    (hds : Digits ds) (h : NoDigit rest) : skipExponent (sign ++ (ds ++ rest)) = .ok rest := by
  obtain ⟨d, ds, rfl⟩ := List.exists_cons_of_ne_nil hds.1
  have hd : d.isDigit = true := hds.2 d List.mem_cons_self
  have hafter : afterSign (sign ++ ((d :: ds) ++ rest)) = (d :: ds) ++ rest := by
    simp only [List.mem_cons, List.not_mem_nil, or_false] at hsign
    rcases hsign with rfl | rfl | rfl
    · have hplus : d ≠ '+' := ne_of_isDigit hd (by decide)
      have hminus : d ≠ '-' := ne_of_isDigit hd (by decide)
      simp [afterSign, hplus, hminus]
    · rfl
    · rfl
  rw [skipExponent, hafter, spanDigits_append hds.2 h]
  simp [hd]

/-- The part of a number behind its fraction. -/
theorem skipExponent_of_exponent (he : Exponent e) (h : EndsNumber rest) :
    (if startsExponent (e ++ rest) then skipExponent (e ++ rest).tail else .ok (e ++ rest)) =
      .ok rest := by
  cases he with
  | none =>
    have hno : startsExponent rest = false := by
      cases rest with
      | nil => rfl
      | cons c r =>
        obtain ⟨-, -, he, hE⟩ := h c rfl
        simp [startsExponent, he, hE]
    simp [hno]
  | @some a sign ds ha hsign hds =>
    have hstarts : startsExponent (a :: (sign ++ ds) ++ rest) = true := by
      simp only [List.mem_cons, List.not_mem_nil, or_false] at ha
      rcases ha with rfl | rfl <;> rfl
    rw [if_pos hstarts, List.cons_append, List.tail_cons, List.append_assoc]
    exact skipExponent_of_digits hsign hds h.noDigit

theorem noDigit_exponent (he : Exponent e) (h : EndsNumber rest) : NoDigit (e ++ rest) := by
  cases he with
  | none => exact h.noDigit
  | some ha _ _ =>
    rintro _ ⟨⟩
    simp only [List.mem_cons, List.not_mem_nil, or_false] at ha
    rcases ha with rfl | rfl <;> rfl

theorem noDigit_fraction (hf : Fraction f) (he : Exponent e) (h : EndsNumber rest) :
    NoDigit (f ++ (e ++ rest)) := by
  cases hf with
  | none =>
    rw [List.nil_append]
    exact noDigit_exponent he h
  | some _ =>
    rintro _ ⟨⟩
    rfl

theorem skipAfterWhole_of_fraction (hf : Fraction f) (he : Exponent e) (h : EndsNumber rest) :
    skipAfterWhole (f ++ (e ++ rest)) = .ok rest := by
  have htail := skipExponent_of_exponent he h
  cases hf with
  | none =>
    have hdot : ∀ r, e ++ rest ≠ '.' :: r := by
      intro r heq
      cases he with
      | none =>
        rw [List.nil_append] at heq
        exact (h '.' (by rw [heq]; rfl)).2.1 rfl
      | some ha _ _ =>
        cases heq
        simp at ha
    rw [List.nil_append]
    unfold skipAfterWhole
    split
    · next heq => exact absurd heq (hdot _)
    · exact htail
  | @some ds hds =>
    rw [List.cons_append, skipAfterWhole,
      spanDigits_append hds.2 (noDigit_exponent he h)]
    exact (if_neg hds.1).trans htail

theorem skipNumber_of_unsigned (hn : Unsigned n) (h : EndsNumber rest) :
    skipNumber (n ++ rest) = .ok rest := by
  cases hn with
  | @mk w f e hw hf he =>
    have hno := noDigit_fraction hf he h
    have hafter := skipAfterWhole_of_fraction hf he h
    rw [List.append_assoc, List.append_assoc]
    cases hw with
    | zero =>
      rw [List.singleton_append, skipNumber, if_pos rfl, if_neg, hafter]
      intro hany
      cases hr : f ++ (e ++ rest) with
      | nil =>
        rw [hr] at hany
        cases hany
      | cons c r =>
        rw [hr] at hany hno
        have hc : c.isDigit = true := hany
        rw [hno c rfl] at hc
        cases hc
    | @digits d ds hd hds =>
      have hfirst : d.isDigit = true := hds.2 d List.mem_cons_self
      have hothers : ∀ d ∈ ds, d.isDigit = true :=
        fun d' hd' => hds.2 d' (List.mem_cons_of_mem d hd')
      rw [List.cons_append, skipNumber, if_neg hd, if_pos hfirst,
        spanDigits_append hothers hno, hafter]

theorem exponent_of_skipExponent {a : Char} (ha : a ∈ ['e', 'E'])
    (h : skipExponent cs = .ok rest) : ∃ e, a :: cs = e ++ rest ∧ Exponent e := by
  rw [skipExponent] at h
  split at h
  · next hany =>
    cases h
    obtain ⟨heq, hdigits, -⟩ := spanDigits_eq (afterSign cs)
    have hne : (spanDigits (afterSign cs)).1 ≠ [] := by
      cases hs : afterSign cs with
      | nil =>
        rw [hs] at hany
        cases hany
      | cons d r =>
        rw [hs] at hany
        have hd : d.isDigit = true := hany
        simp [spanDigits, hd]
    have hsign : ∃ sign ∈ [[], ['+'], ['-']], cs = sign ++ afterSign cs := by
      unfold afterSign
      split
      · exact ⟨['+'], by simp, rfl⟩
      · exact ⟨['-'], by simp, rfl⟩
      · exact ⟨[], by simp, rfl⟩
    obtain ⟨sign, hsign, hcs⟩ := hsign
    refine ⟨a :: (sign ++ (spanDigits (afterSign cs)).1), ?_, .some ha hsign ⟨hne, hdigits⟩⟩
    rw [List.cons_append, List.append_assoc, ← heq, ← hcs]
  · cases h

theorem exponent_of_skip
    (h : (if startsExponent cs then skipExponent cs.tail else .ok cs) = .ok rest) :
    ∃ e, cs = e ++ rest ∧ Exponent e := by
  split at h
  · next hstarts =>
    cases cs with
    | nil => cases hstarts
    | cons a cs =>
      refine exponent_of_skipExponent ?_ h
      simpa [startsExponent] using hstarts
  · cases h
    exact ⟨[], rfl, .none⟩

theorem tail_of_skipAfterWhole (h : skipAfterWhole cs = .ok rest) :
    ∃ f e, cs = f ++ (e ++ rest) ∧ Fraction f ∧ Exponent e := by
  unfold skipAfterWhole at h
  split at h
  · next r =>
    obtain ⟨heq, hdigits, -⟩ := spanDigits_eq r
    dsimp only at h
    split at h
    · cases h
    · next hne =>
      obtain ⟨e, he, hexp⟩ := exponent_of_skip h
      refine ⟨'.' :: (spanDigits r).1, e, ?_, .some ⟨hne, hdigits⟩, hexp⟩
      rw [List.cons_append, ← he, ← heq]
  · obtain ⟨e, he, hexp⟩ := exponent_of_skip h
    exact ⟨[], e, he, .none, hexp⟩

theorem unsigned_of_skipNumber (h : skipNumber cs = .ok rest) :
    ∃ n, cs = n ++ rest ∧ Unsigned n := by
  unfold skipNumber at h
  split at h
  · cases h
  · next c r =>
    split at h
    · next hc =>
      split at h
      · cases h
      · obtain ⟨f, e, rfl, hf, he⟩ := tail_of_skipAfterWhole h
        refine ⟨['0'] ++ (f ++ e), ?_, .mk .zero hf he⟩
        rw [hc, List.append_assoc, List.append_assoc]
        rfl
    · next hc =>
      split at h
      · next hdigit =>
        obtain ⟨heq, hdigits, -⟩ := spanDigits_eq r
        obtain ⟨f, e, htail, hf, he⟩ := tail_of_skipAfterWhole h
        have hwhole : Digits (c :: (spanDigits r).1) :=
          ⟨List.cons_ne_nil _ _, List.forall_mem_cons.2 ⟨hdigit, hdigits⟩⟩
        refine ⟨(c :: (spanDigits r).1) ++ (f ++ e), ?_, .mk (.digits hc hwhole) hf he⟩
        rw [List.append_assoc, List.append_assoc, ← htail, List.cons_append, ← heq]
      · cases h

end Liveness.Json
