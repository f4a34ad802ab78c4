import Liveness.Proofs.Except
import Liveness.Proofs.Json.Numbers

/-! Passing over values. What is passed over is a value of the grammar, however deep it is
nested, and every value is passed over up to its end. -/

namespace Liveness.Json

variable {around : List Bracket} {b : Bracket} {c : Char}
variable {cs e es k r rest s v w w' : List Char}

theorem skipBlanks_append_cons (hw : Blanks w) (hc : isBlank c = false) (r : List Char) :
    skipBlanks (w ++ c :: r) = c :: r := by
  rw [skipBlanks_append hw, skipBlanks_cons hc]

theorem skipValue_blanks (hw : Blanks w) : skipValue around (w ++ cs) = skipValue around cs := by
  rw [skipValue_eq, skipBlanks_append hw, ← skipValue_eq]

theorem skipAfter_blanks (hw : Blanks w) :
    skipAfter (b :: around) (w ++ cs) = skipAfter (b :: around) cs := by
  rw [skipAfter_cons, skipBlanks_append hw, ← skipAfter_cons]

@[simp] theorem isBlank_opening : isBlank b.opening = false := by cases b <;> rfl

@[simp] theorem isBlank_closing : isBlank b.closing = false := by cases b <;> rfl

theorem endsNumber_comma : EndsNumber (',' :: rest) := endsNumber_cons (by decide)

theorem endsNumber_closing : EndsNumber (b.closing :: rest) :=
  endsNumber_cons (by cases b <;> decide)

/-- A character that neither is a blank nor ends a list or an object. -/
structure Begins (c : Char) : Prop where
  blank : isBlank c = false
  list : c ≠ ']'
  object : c ≠ '}'

theorem Begins.closing (h : Begins c) (b : Bracket) : c ≠ b.closing := by
  cases b with
  | list => exact h.list
  | object => exact h.object

theorem begins_of_isDigit (hc : c.isDigit = true) : Begins c := by
  refine ⟨?_, ne_of_isDigit hc rfl, ne_of_isDigit hc rfl⟩
  have key : ∀ d ∈ [' ', '\n', '\t', '\r'], d.isDigit = false := by simp
  rw [← Bool.not_eq_true, isBlank_iff]
  exact fun hmem => ne_of_isDigit hc (key c hmem) rfl

theorem begins_opening : Begins b.opening := by
  cases b <;> exact ⟨rfl, by decide, by decide⟩

theorem first_of_unsigned {n : List Char} (h : Unsigned n) :
    ∃ c r, n = c :: r ∧ c.isDigit = true := by
  cases h with
  | mk hw _ _ =>
    cases hw with
    | zero => exact ⟨'0', _, rfl, rfl⟩
    | digits _ hds => exact ⟨_, _, rfl, hds.2 _ List.mem_cons_self⟩

/-- A scalar is told by its first character, which opens no list and no object. -/
theorem skipScalar_of_scalar (h : Scalar s) (hrest : EndsNumber rest) :
    ∃ c r, s = c :: r ∧ Begins c ∧ c ≠ '[' ∧ c ≠ '{' ∧ skipScalar c (r ++ rest) = .ok rest := by
  have word : ∀ {word : List Char}, readWord word (word ++ rest) = .ok rest :=
    readWord_eq_ok_iff.2 rfl
  cases h with
  | null => exact ⟨'n', _, rfl, ⟨rfl, by decide, by decide⟩, by decide, by decide, word⟩
  | true => exact ⟨'t', _, rfl, ⟨rfl, by decide, by decide⟩, by decide, by decide, word⟩
  | false => exact ⟨'f', _, rfl, ⟨rfl, by decide, by decide⟩, by decide, by decide, word⟩
  | number hn =>
    obtain ⟨c, r, rfl, hc⟩ := first_of_unsigned hn
    have hne : ∀ d : Char, d.isDigit = false → c ≠ d := fun d hd => ne_of_isDigit hc hd
    have hskip := skipNumber_of_unsigned hn hrest
    refine ⟨c, r, rfl, begins_of_isDigit hc, hne _ rfl, hne _ rfl, ?_⟩
    rw [skipScalar, if_neg (hne _ rfl), if_neg (hne _ rfl), if_neg (hne _ rfl),
      if_neg (hne _ rfl), if_pos hc]
    exact hskip
  | negative hn =>
    exact ⟨'-', _, rfl, ⟨rfl, by decide, by decide⟩, by decide, by decide,
      skipNumber_of_unsigned hn hrest⟩
  | @string raw hraw =>
    refine ⟨'"', _, rfl, ⟨rfl, by decide, by decide⟩, by decide, by decide, ?_⟩
    rw [List.append_assoc]
    exact skipString_of_raw hraw rest

theorem scalar_of_skipScalar (h : skipScalar c r = .ok rest) :
    ∃ s, c :: r = s ++ rest ∧ Scalar s := by
  unfold skipScalar at h
  split at h
  · next hc =>
    rw [hc, readWord_eq_ok_iff.1 h]
    exact ⟨_, rfl, .null⟩
  split at h
  · next hc =>
    rw [hc, readWord_eq_ok_iff.1 h]
    exact ⟨_, rfl, .true⟩
  split at h
  · next hc =>
    rw [hc, readWord_eq_ok_iff.1 h]
    exact ⟨_, rfl, .false⟩
  split at h
  · next hc =>
    obtain ⟨n, rfl, hn⟩ := unsigned_of_skipNumber h
    rw [hc]
    exact ⟨'-' :: n, rfl, .negative hn⟩
  split at h
  · obtain ⟨n, hcs, hn⟩ := unsigned_of_skipNumber h
    exact ⟨n, hcs, .number hn⟩
  split at h
  · next hc =>
    obtain ⟨raw, rfl, hraw⟩ := raw_of_skipString h
    rw [hc]
    exact ⟨'"' :: (raw ++ ['"']), by simp, .string hraw⟩
  · cases h

theorem skipKey_of_raw {w₁ : List Char} (hw : Blanks w) (hk : Raw k) (hw₁ : Blanks w₁)
    (r : List Char) : skipKey (w ++ '"' :: (k ++ '"' :: (w₁ ++ ':' :: r))) = .ok r := by
  rw [skipKey, skipBlanks_append_cons hw rfl]
  dsimp only
  rw [if_pos rfl, skipString_of_raw hk]
  dsimp only
  rw [skipBlanks_append_cons hw₁ rfl]
  exact if_pos rfl

theorem raw_of_skipKey (h : skipKey cs = .ok rest) :
    ∃ w k w₁, cs = w ++ '"' :: (k ++ '"' :: (w₁ ++ ':' :: rest)) ∧ Blanks w ∧ Raw k ∧
      Blanks w₁ := by
  unfold skipKey at h
  split at h
  · cases h
  · next c r hblanks =>
    obtain ⟨w, rfl, hw, -⟩ := eq_of_skipBlanks hblanks
    split at h
    · next hc =>
      split at h
      · cases h
      · next mid hskip =>
        obtain ⟨k, rfl, hk⟩ := raw_of_skipString hskip
        split at h
        · cases h
        · next d r' hblanks' =>
          obtain ⟨w₁, rfl, hw₁, -⟩ := eq_of_skipBlanks hblanks'
          split at h
          · next hd =>
            cases h
            rw [hc, hd]
            exact ⟨w, k, w₁, rfl, hw, hk, hw₁⟩
          · cases h
    · cases h

theorem isValue_of_isText {s : String} (h : IsText s v) : IsValue v := by
  cases h with
  | mk hraw => exact .scalar (.string (raw_of_spells hraw))

/-- A value begins with no blank. -/
theorem first_of_value (h : IsValue v) : ∃ c r, v = c :: r ∧ Begins c := by
  cases h with
  | scalar hs =>
    obtain ⟨c, r, hcr, hc, -⟩ := skipScalar_of_scalar hs EndsNumber.nil
    exact ⟨c, r, hcr, hc⟩
  | empty _ => exact ⟨_, _, rfl, begins_opening⟩
  | filled _ => exact ⟨_, _, rfl, begins_opening⟩

/-- A value is the same whatever blanks stand in front of it. -/
theorem eq_of_blanks_append {v' : List Char} (hw : Blanks w) (hw' : Blanks w') (hv : IsValue v)
    (hv' : IsValue v') (h : w ++ v = w' ++ v') : v = v' := by
  obtain ⟨c, r, rfl, hc⟩ := first_of_value hv
  obtain ⟨c', r', rfl, hc'⟩ := first_of_value hv'
  rw [← skipBlanks_append_cons hw hc.blank, h, skipBlanks_append_cons hw' hc'.blank]

theorem first_of_element (h : Wf (.element b) e) :
    ∃ w c r, e = w ++ c :: r ∧ Blanks w ∧ Begins c := by
  cases h with
  | item hw hv _ =>
    obtain ⟨c, r, rfl, hc⟩ := first_of_value hv
    exact ⟨_, c, _, rfl, hw, hc⟩
  | member hw _ _ _ _ _ => exact ⟨_, '"', _, rfl, hw, rfl, by decide, by decide⟩

theorem first_of_elements (h : Wf (.elements b) es) :
    ∃ w c r, es = w ++ c :: r ∧ Blanks w ∧ Begins c := by
  cases h with
  | one he => exact first_of_element he
  | more he _ =>
    obtain ⟨w, c, r, rfl, hw, hc⟩ := first_of_element he
    exact ⟨w, c, _, by rw [List.append_assoc, List.cons_append], hw, hc⟩

theorem skipValue_opening :
    skipValue around (b.opening :: r) = skipFirst b around r := by
  rw [skipValue_eq, skipBlanks_cons isBlank_opening]
  cases b <;> rfl

theorem skipAfter_comma : skipAfter (b :: around) (',' :: r) = skipMember b around r := by
  rw [skipAfter_cons, skipBlanks_cons rfl]
  rfl

theorem skipAfter_closing : skipAfter (b :: around) (b.closing :: r) = skipAfter around r := by
  have hcomma : b.closing ≠ ',' := by cases b <;> decide
  rw [skipAfter_cons, skipBlanks_cons isBlank_closing]
  exact (if_neg hcomma).trans (if_pos rfl)

/-- What passing over a phrase leaves to be done. -/
def Passes : Phrase → List Char → Prop
  | .value, v => ∀ around rest, EndsNumber rest →
      skipValue around (v ++ rest) = skipAfter around rest
  | .element b, e => ∀ around rest, EndsNumber rest →
      skipMember b around (e ++ rest) = skipAfter (b :: around) rest
  | .elements b, es => ∀ around rest,
      skipMember b around (es ++ b.closing :: rest) = skipAfter around rest

theorem passes_of_wf {p : Phrase} (h : Wf p cs) : Passes p cs := by
  induction h with
  | @scalar s hs =>
    intro around rest hrest
    obtain ⟨c, r, rfl, hc, hlist, hobject, hskip⟩ := skipScalar_of_scalar hs hrest
    rw [List.cons_append, skipValue_eq, skipBlanks_cons hc.blank]
    dsimp only
    rw [if_neg hlist, if_neg hobject, hskip]
    rfl
  | @empty b w hw =>
    intro around rest _
    rw [List.cons_append, List.append_assoc, skipValue_opening, skipFirst_eq,
      List.singleton_append, skipBlanks_append_cons hw isBlank_closing]
    exact if_pos rfl
  | @filled b es hes ih =>
    intro around rest _
    obtain ⟨w, c, r, rfl, hw, hc⟩ := first_of_elements hes
    rw [List.cons_append, List.append_assoc, skipValue_opening, skipFirst_eq, ← ih around rest,
      List.singleton_append, List.append_assoc, List.cons_append,
      skipBlanks_append_cons hw hc.blank]
    exact if_neg (hc.closing b)
  | @item v w w' hw _ hw' ih =>
    intro around rest hrest
    rw [List.append_assoc, List.append_assoc, skipMember_list, skipValue_blanks hw,
      ih _ _ (hrest.blanks hw'), skipAfter_blanks hw']
  | @member k v w w₁ w₂ w' hw hk hw₁ hw₂ _ hw' ih =>
    intro around rest hrest
    have hkey : skipKey ((w ++ '"' :: (k ++ '"' :: (w₁ ++ ':' :: (w₂ ++ (v ++ w'))))) ++ rest) =
        .ok (w₂ ++ (v ++ (w' ++ rest))) := by
      rw [← skipKey_of_raw hw hk hw₁]
      simp only [List.append_assoc, List.cons_append]
    rw [skipMember_object, hkey, Except.bind, skipValue_blanks hw₂, ih _ _ (hrest.blanks hw'),
      skipAfter_blanks hw']
  | one _ ih =>
    intro around rest
    rw [ih _ _ endsNumber_closing, skipAfter_closing]
  | more _ _ ih ihs =>
    intro around rest
    rw [List.append_assoc, List.cons_append, ih _ _ endsNumber_comma, skipAfter_comma, ihs]

theorem skip_of_value (hw : Blanks w) (hv : IsValue v) (hrest : EndsNumber rest) :
    skip (w ++ (v ++ rest)) = .ok rest := by
  rw [skip, skipValue_blanks hw, passes_of_wf hv [] rest hrest, skipAfter_nil]

/-- A text that ends the lists and objects around a place, the innermost first. -/
inductive Closes (rest : List Char) : List Bracket → List Char → Prop
  | nil : Closes rest [] rest
  | last {b : Bracket} {around : List Bracket} {w cs : List Char} : Blanks w →
      Closes rest around cs → Closes rest (b :: around) (w ++ b.closing :: cs)
  | more {b : Bracket} {around : List Bracket} {w es cs : List Char} : Blanks w →
      Wf (.elements b) es → Closes rest around cs →
      Closes rest (b :: around) (w ++ ',' :: (es ++ b.closing :: cs))

/-- The innermost list or object goes on with what makes an element, and ends. -/
theorem elements_of_closes (he : ∀ w', Blanks w' → Wf (.element b) (e ++ w'))
    (h : Closes rest (b :: around) r) :
    ∃ es r', e ++ r = es ++ b.closing :: r' ∧ Wf (.elements b) es ∧ Closes rest around r' := by
  cases h with
  | last hw hr => exact ⟨_, _, by rw [← List.append_assoc], .one (he _ hw), hr⟩
  | more hw hes hr =>
    exact ⟨_, _, by simp only [List.append_assoc, List.cons_append], .more (he _ hw) hes, hr⟩

/-- What stands between the brackets of a list or an object. -/
def Inside (b : Bracket) (body : List Char) : Prop := Blanks body ∨ Wf (.elements b) body

theorem isValue_of_inside (h : Inside b cs) : IsValue (b.opening :: (cs ++ [b.closing])) := by
  rcases h with h | h
  · exact .empty h
  · exact .filled h

/-- A value in front, and behind it the end of what is around it. -/
def HasValue (rest : List Char) (around : List Bracket) (cs : List Char) : Prop :=
  ∃ w v r, cs = w ++ (v ++ r) ∧ Blanks w ∧ IsValue v ∧ Closes rest around r

/-- Elements in front and the bracket that ends them, and behind it the end of what is around
them. -/
def HasElements (rest : List Char) (b : Bracket) (around : List Bracket) (cs : List Char) : Prop :=
  ∃ es r, cs = es ++ b.closing :: r ∧ Wf (.elements b) es ∧ Closes rest around r

/-- The same behind an opening bracket, where there may be no elements. -/
def HasInside (rest : List Char) (b : Bracket) (around : List Bracket) (cs : List Char) : Prop :=
  ∃ body r, cs = body ++ b.closing :: r ∧ Inside b body ∧ Closes rest around r

theorem HasElements.inside (h : HasElements rest b around cs) : HasInside rest b around cs := by
  obtain ⟨es, r, hes, hwf, hr⟩ := h
  exact ⟨es, r, hes, .inr hwf, hr⟩

theorem hasValue_of_opening (hb : skipBlanks cs = b.opening :: r)
    (h : HasInside rest b around r) : HasValue rest around cs := by
  obtain ⟨body, r', rfl, hin, hr⟩ := h
  obtain ⟨w, rfl, hw, -⟩ := eq_of_skipBlanks hb
  exact ⟨w, _, r', by simp, hw, isValue_of_inside hin, hr⟩

theorem hasValue_of_scalar {c : Char} {rest' : List Char} (hb : skipBlanks cs = c :: r)
    (hs : skipScalar c r = .ok rest') (h : Closes rest around rest') :
    HasValue rest around cs := by
  obtain ⟨w, rfl, hw, -⟩ := eq_of_skipBlanks hb
  obtain ⟨s, hcr, hscalar⟩ := scalar_of_skipScalar hs
  exact ⟨w, s, rest', by rw [hcr], hw, .scalar hscalar, h⟩

theorem hasElements_of_item (h : HasValue rest (.list :: around) cs) :
    HasElements rest .list around cs := by
  obtain ⟨w, v, r, rfl, hw, hv, hr⟩ := h
  rw [← List.append_assoc]
  refine elements_of_closes (fun w' hw' => ?_) hr
  rw [List.append_assoc]
  exact .item hw hv hw'

theorem hasElements_of_member {rest' : List Char} (hk : skipKey cs = .ok rest')
    (h : HasValue rest (.object :: around) rest') : HasElements rest .object around cs := by
  obtain ⟨w, k, w₁, rfl, hw, hkey, hw₁⟩ := raw_of_skipKey hk
  obtain ⟨w₂, v, r, rfl, hw₂, hv, hr⟩ := h
  have hsplit : w ++ '"' :: (k ++ '"' :: (w₁ ++ ':' :: (w₂ ++ (v ++ r)))) =
      (w ++ '"' :: (k ++ '"' :: (w₁ ++ ':' :: (w₂ ++ v)))) ++ r := by
    simp only [List.append_assoc, List.cons_append]
  rw [hsplit]
  refine elements_of_closes (fun w' hw' => ?_) hr
  simp only [List.append_assoc, List.cons_append]
  exact .member hw hkey hw₁ hw₂ hv hw'

theorem hasValue_of_skipValue (h : skipValue around cs = .ok rest) : HasValue rest around cs := by
  revert h
  -- what each of the readers that call one another has passed over when it succeeds
  refine skipValue.induct
    (fun around cs => skipValue around cs = .ok rest → HasValue rest around cs)
    (fun around cs => skipAfter around cs = .ok rest → Closes rest around cs)
    (fun b around cs => skipMember b around cs = .ok rest → HasElements rest b around cs)
    (fun b around cs => skipFirst b around cs = .ok rest → HasInside rest b around cs)
    ?_ ?_ ?_ ?_ ?_ ?_ ?_ ?_ ?_ ?_ ?_ ?_ ?_ ?_ ?_ ?_ around cs
  · intro around cs hb h
    simp [skipValue_eq, hb] at h
  · -- at a value: a list, an object or a scalar
    intro around cs r hb _ ih h
    simp only [skipValue_eq, hb, reduceIte] at h
    exact hasValue_of_opening (b := .list) hb (ih h)
  · intro around cs r hb _ hne ih h
    simp only [skipValue_eq, hb, hne, reduceIte] at h
    exact hasValue_of_opening (b := .object) hb (ih h)
  · intro around cs c r hb _ h1 h2 e he h
    simp [skipValue_eq, hb, h1, h2, he, Except.bind] at h
  · intro around cs c r hb _ h1 h2 rest' hs _ ih h
    simp only [skipValue_eq, hb, h1, h2, hs, reduceIte, Except.bind] at h
    exact hasValue_of_scalar hb hs (ih h)
  · -- behind a value: the end, a comma or a bracket
    intro cs h
    rw [skipAfter_nil] at h
    cases h
    exact .nil
  · intro cs b around hb h
    simp [skipAfter_cons, hb] at h
  · intro cs b around r hb _ ih h
    simp only [skipAfter_cons, hb, reduceIte] at h
    obtain ⟨w, rfl, hw, -⟩ := eq_of_skipBlanks hb
    obtain ⟨es, r', rfl, hes, hr⟩ := ih h
    exact .more hw hes hr
  · intro cs b around r hb _ hne ih h
    simp only [skipAfter_cons, hb, hne, reduceIte] at h
    obtain ⟨w, rfl, hw, -⟩ := eq_of_skipBlanks hb
    exact .last hw (ih h)
  · intro cs b around c r hb _ h1 h2 h
    simp [skipAfter_cons, hb, h1, h2] at h
  · -- at an item or a member
    intro around cs ih h
    rw [skipMember_list] at h
    exact hasElements_of_item (ih h)
  · intro around cs e he h
    simp [skipMember_object, he, Except.bind] at h
  · intro around cs rest' he _ ih h
    simp only [skipMember_object, he, Except.bind] at h
    exact hasElements_of_member he (ih h)
  · -- behind an opening bracket
    intro b around cs hb h
    simp [skipFirst_eq, hb] at h
  · intro b around cs r hb _ ih h
    simp only [skipFirst_eq, hb, reduceIte] at h
    obtain ⟨w, rfl, hw, -⟩ := eq_of_skipBlanks hb
    exact ⟨w, r, rfl, .inl hw, ih h⟩
  · intro b around cs c r hb _ hne ih h
    simp only [skipFirst_eq, hb, hne, reduceIte] at h
    exact (ih h).inside

theorem value_of_skip (h : skip cs = .ok rest) :
    ∃ w v, cs = w ++ (v ++ rest) ∧ Blanks w ∧ IsValue v := by
  obtain ⟨w, v, r, rfl, hw, hv, hr⟩ := hasValue_of_skipValue h
  cases hr
  exact ⟨w, v, rfl, hw, hv⟩

/-- A part may have blanks in front of it. -/
theorem isItem_blanks (hw : Blanks w) {v e : List Char} (h : IsItem v e) : IsItem v (w ++ e) := by
  cases h with
  | mk hw' hv hw'' =>
    rw [← List.append_assoc]
    exact .mk (hw.append hw') hv hw''

theorem isMember_blanks (hw : Blanks w) {m : String × List Char} {e : List Char}
    (h : IsMember m e) : IsMember m (w ++ e) := by
  cases h with
  | mk hw' hk hw₁ hw₂ hv hw'' =>
    rw [← List.append_assoc]
    exact .mk (hw.append hw') hk hw₁ hw₂ hv hw''

/-- Blanks in front of parts belong to the first one. -/
theorem separated_blanks {α : Type} {Part : α → List Char → Prop} {as : List α}
    (first : ∀ {a e}, Part a e → Part a (w ++ e)) (h : Separated Part as es) :
    Separated Part as (w ++ es) := by
  cases h with
  | one he => exact .one (first he)
  | more he hes =>
    rw [← List.append_assoc]
    exact .more (first he) hes

end Liveness.Json
