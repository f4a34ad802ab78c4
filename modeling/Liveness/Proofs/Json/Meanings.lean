import Liveness.Json.Basic
import Liveness.Proofs.Json.Decimals
import Liveness.Proofs.Json.Values

/-! What a text says. The grammar is unambiguous, so that a text says one value at most: a value
is told by its first character, it ends where nothing can go on with it, and the parts of a list
or an object are told one after the other. -/

namespace Liveness.Json

variable {α β γ : Type} {a a' : Value} {b : Bracket} {v v' w w' r r' rest rest' e e' es es' t :
  List Char}

/-- A value of the grammar and what it stands for. The numbers are natural and in decimals, as
those of values are, and the members of an object keep the order in which they stand. -/
inductive Denotes : Value → List Char → Prop
  | null : Denotes .null ['n', 'u', 'l', 'l']
  | true : Denotes (.bool true) ['t', 'r', 'u', 'e']
  | false : Denotes (.bool false) ['f', 'a', 'l', 's', 'e']
  | number (n : Nat) : Denotes (.number n) (Nat.toDigits 10 n)
  | string {s : String} {v : List Char} : IsText s v → Denotes (.string s) v
  | array {ps : List (Value × List Char)} {v : List Char} : IsValue v →
      IsList (ps.map fun p => p.2) v → (∀ p ∈ ps, Denotes p.1 p.2) →
      Denotes (.array (ps.map fun p => p.1)) v
  | object {ps : List (String × Value × List Char)} {v : List Char} : IsValue v →
      IsObject (ps.map fun p => (p.1, p.2.2)) v → (∀ p ∈ ps, Denotes p.2.1 p.2.2) →
      Denotes (.object (ps.map fun p => (p.1, p.2.1))) v

/-- A text that is one value, with blanks around it. -/
def IsDocument (a : Value) (text : String) : Prop :=
  ∃ w v w', text.toList = w ++ (v ++ w') ∧ Blanks w ∧ Denotes a v ∧ Blanks w'

theorem Denotes.isValue (h : Denotes a v) : IsValue v := by
  cases h with
  | null => exact .scalar .null
  | true => exact .scalar .true
  | false => exact .scalar .false
  | number n => exact .scalar (.number (unsigned_toDigits n))
  | string hs => exact isValue_of_isText hs
  | array hv _ _ => exact hv
  | object hv _ _ => exact hv

theorem blanks_split {c c' : Char} (hw : Blanks w) (hw' : Blanks w') (hc : isBlank c = false)
    (hc' : isBlank c' = false) (h : w ++ c :: r = w' ++ c' :: r') : c = c' ∧ r = r' := by
  have hskip := congrArg skipBlanks h
  rwa [skipBlanks_append_cons hw hc, skipBlanks_append_cons hw' hc', List.cons.injEq] at hskip

theorem spells_split {s s' raw raw' : List Char} (hs : Spells s raw) (hs' : Spells s' raw')
    (h : raw ++ '"' :: r = raw' ++ '"' :: r') : s = s' ∧ r = r' := by
  have hread := readString_of_spells hs r
  rw [h, readString_of_spells hs', Except.ok.injEq, Prod.mk.injEq] at hread
  exact ⟨hread.1.symm, hread.2.symm⟩

theorem IsText.unique {s s' : String} (h : IsText s v) (h' : IsText s' v) : s = s' := by
  generalize hvv : v = v' at h'
  cases h with
  | mk hs =>
    cases h' with
    | mk hs' => exact String.toList_inj.1 (spells_split hs hs' (List.cons.inj hvv).2).1

/-- A value is the same, and ends in the same place, however it is looked for. -/
theorem value_split (hw : Blanks w) (hw' : Blanks w') (hv : IsValue v) (hv' : IsValue v')
    (hr : EndsNumber r) (hr' : EndsNumber r') (h : w ++ (v ++ r) = w' ++ (v' ++ r')) :
    v = v' ∧ r = r' := by
  have hskip := skip_of_value hw hv hr
  rw [h, skip_of_value hw' hv' hr', Except.ok.injEq] at hskip
  subst hskip
  rw [← List.append_assoc, ← List.append_assoc, List.append_cancel_right_eq] at h
  exact ⟨eq_of_blanks_append hw hw' hv hv' h, rfl⟩

/-- What may come next behind a part of a list or an object. -/
inductive Behind : List Char → Prop
  | comma (r : List Char) : Behind (',' :: r)
  | closing (b : Bracket) (r : List Char) : Behind (b.closing :: r)

theorem Behind.endsNumber (h : Behind rest) : EndsNumber rest := by
  cases h with
  | comma r => exact endsNumber_comma
  | closing b r => exact endsNumber_closing

theorem Behind.skipBlanks (h : Behind rest) (hw : Blanks w) : skipBlanks (w ++ rest) = rest := by
  cases h with
  | comma r => exact skipBlanks_append_cons hw rfl r
  | closing b r => exact skipBlanks_append_cons hw isBlank_closing r

/-- The value of a part, with the blanks behind it. -/
theorem value_behind_split (hw : Blanks w) (hw' : Blanks w') (hv : IsValue v) (hv' : IsValue v')
    {b b' : List Char} (hb : Blanks b) (hb' : Blanks b') (hr : Behind r) (hr' : Behind r')
    (h : w ++ (v ++ (b ++ r)) = w' ++ (v' ++ (b' ++ r'))) : v = v' ∧ r = r' := by
  obtain ⟨hvalue, hrest⟩ := value_split hw hw' hv hv' (hr.endsNumber.blanks hb)
    (hr'.endsNumber.blanks hb') h
  exact ⟨hvalue, by rw [← hr.skipBlanks hb, hrest, hr'.skipBlanks hb']⟩

/-- Parts that have the form of elements, and of which a text has one at most in front. -/
structure AreParts (b : Bracket) (Part : α → List Char → Prop) : Prop where
  wf : ∀ {x e}, Part x e → Wf (.element b) e
  split : ∀ {x y e e' r r'}, Part x e → Part y e' → Behind r → Behind r' → e ++ r = e' ++ r' →
    x = y ∧ r = r'

theorem areParts_isItem : AreParts .list IsItem where
  wf := by
    rintro _ _ ⟨hw, hv, hb⟩
    exact .item hw hv hb
  split := by
    rintro _ _ _ _ r r' ⟨hw, hv, hb⟩ ⟨hw', hv', hb'⟩ hr hr' h
    simp only [List.append_assoc] at h
    exact value_behind_split hw hw' hv hv' hb hb' hr hr' h

theorem areParts_isMember : AreParts .object IsMember where
  wf := by
    rintro _ _ ⟨hw, hk, hw₁, hw₂, hv, hb⟩
    exact .member hw (raw_of_spells hk) hw₁ hw₂ hv hb
  split := by
    rintro _ _ _ _ r r' ⟨hw, hk, hw₁, hw₂, hv, hb⟩ ⟨hw', hk', hw₁', hw₂', hv', hb'⟩ hr hr' h
    simp only [List.append_assoc, List.cons_append] at h
    -- the key, the colon behind it and the value are told one after the other
    obtain ⟨-, hkeys⟩ := blanks_split hw hw' rfl rfl h
    obtain ⟨hkey, hcolons⟩ := spells_split hk hk' hkeys
    obtain ⟨-, hvalues⟩ := blanks_split hw₁ hw₁' rfl rfl hcolons
    obtain ⟨rfl, hrest⟩ := value_behind_split hw₂ hw₂' hv hv' hb hb' hr hr' hvalues
    exact ⟨by rw [String.toList_inj.1 hkey], hrest⟩

section

variable {Part : α → List Char → Prop} {xs ys : List α}

theorem wf_of_separated (hp : AreParts b Part) (h : Separated Part xs es) :
    Wf (.elements b) es := by
  induction h with
  | one he => exact .one (hp.wf he)
  | more he _ ih => exact .more (hp.wf he) ih

theorem separated_split (hp : AreParts b Part) (h : Separated Part xs es)
    (h' : Separated Part ys es') (heq : es ++ b.closing :: r = es' ++ b.closing :: r') :
    xs = ys := by
  have hcomma : ',' ≠ b.closing := by cases b <;> decide
  induction h generalizing ys es' with
  | one he =>
    cases h' with
    | one he' => rw [(hp.split he he' (.closing b r) (.closing b r') heq).1]
    | more he' _ =>
      rw [List.append_assoc, List.cons_append] at heq
      obtain ⟨-, hrest⟩ := hp.split he he' (.closing b r) (.comma _) heq
      exact absurd (List.cons.inj hrest).1.symm hcomma
  | more he _ ih =>
    cases h' with
    | one he' =>
      rw [List.append_assoc, List.cons_append] at heq
      obtain ⟨-, hrest⟩ := hp.split he he' (.comma _) (.closing b r') heq
      exact absurd (List.cons.inj hrest).1 hcomma
    | more he' hes' =>
      simp only [List.append_assoc, List.cons_append] at heq
      obtain ⟨rfl, hrest⟩ := hp.split he he' (.comma _) (.comma _) heq
      rw [ih hes' (List.cons.inj hrest).2]

/-- Where parts stand there are not only blanks up to the end. -/
theorem not_blank_of_separated (hp : AreParts b Part) (h : Separated Part xs es)
    (hw : Blanks w) : es ++ b.closing :: r ≠ w ++ b.closing :: r' := by
  intro heq
  obtain ⟨w', c, es, rfl, hw', hc⟩ := first_of_elements (wf_of_separated hp h)
  rw [List.append_assoc, List.cons_append] at heq
  exact hc.closing b (blanks_split hw' hw hc.blank isBlank_closing heq).1

/-- A text is a list or an object of one sequence of parts at most. -/
theorem Bracketed.unique (hp : AreParts b Part) (h : Bracketed b Part xs v)
    (h' : Bracketed b Part ys v) : xs = ys := by
  generalize hvv : v = v' at h'
  have inside : ∀ {w w' r r' : List Char}, Blanks w → Blanks w' →
      w ++ b.opening :: r = w' ++ b.opening :: r' → r = r' := fun hw hw' heq =>
    (blanks_split hw hw' isBlank_opening isBlank_opening heq).2
  cases h with
  | empty hw hw₁ _ =>
    cases h' with
    | empty _ _ _ => rfl
    | filled hw' hes' _ =>
      exact absurd (inside hw hw' hvv).symm (not_blank_of_separated hp hes' hw₁)
  | filled hw hes _ =>
    cases h' with
    | empty hw' hw₁' _ => exact absurd (inside hw hw' hvv) (not_blank_of_separated hp hes hw₁')
    | filled hw' hes' _ => exact separated_split hp hes hes' (inside hw hw' hvv)

/-- A value that is a list or an object begins with its bracket. -/
theorem opening_of_bracketed (hv : IsValue v) (h : Bracketed b Part xs v) :
    v.head? = some b.opening := by
  obtain ⟨c, r, rfl, hc⟩ := first_of_value hv
  have first : ∀ {w r' : List Char}, Blanks w → w ++ b.opening :: r' = c :: r →
      (c :: r).head? = some b.opening := fun hw heq => by
    rw [(blanks_split hw .nil isBlank_opening hc.blank heq).1]
    rfl
  generalize hcr : c :: r = t at h
  rw [← hcr]
  cases h with
  | empty hw _ _ => exact first hw hcr.symm
  | filled hw _ _ => exact first hw hcr.symm

end

/-- What a value can be told by from the others: its first character, but for the words and the
digits, of which one stands for all. -/
def Value.mark : Value → Char
  | .null => 'n'
  | .bool _ => 't'
  | .number _ => '0'
  | .string _ => '"'
  | .array _ => '['
  | .object _ => '\x7b'

def markOf (v : List Char) : Option Char :=
  v.head?.map fun c => if c.isDigit then '0' else if c = 'f' then 't' else c

theorem Denotes.mark (h : Denotes a v) : markOf v = some a.mark := by
  cases h with
  | null => rfl
  | true => rfl
  | false => rfl
  | number n =>
    obtain ⟨c, r, hcr, hc⟩ := first_of_unsigned (unsigned_toDigits n)
    rw [hcr, markOf, List.head?_cons, Option.map_some, if_pos hc]
    rfl
  | string hs =>
    cases hs with
    | mk _ => rfl
  | array hv h _ =>
    rw [markOf, opening_of_bracketed hv h]
    rfl
  | object hv h _ =>
    rw [markOf, opening_of_bracketed hv h]
    rfl

theorem Denotes.mark_eq (h : Denotes a v) (h' : Denotes a' v) : a.mark = a'.mark := by
  rw [← Option.some_inj, ← h.mark, h'.mark]

/-- Sequences that agree in what determines a second thing agree in that. -/
theorem map_eq_of_determined {f : α → β} {g : α → γ} {xs ys : List α}
    (hfg : ∀ x ∈ xs, ∀ y ∈ ys, g x = g y → f x = f y) (h : xs.map g = ys.map g) :
    xs.map f = ys.map f := by
  induction xs generalizing ys with
  | nil =>
    rw [List.map_nil, eq_comm, List.map_eq_nil_iff] at h
    rw [h]
  | cons x xs ih =>
    cases ys with
    | nil => cases h
    | cons y ys =>
      rw [List.map_cons, List.map_cons, List.cons.injEq] at h
      rw [List.map_cons, List.map_cons, hfg x List.mem_cons_self y List.mem_cons_self h.1,
        ih (fun x hx y hy => hfg x (List.mem_cons_of_mem _ hx) y (List.mem_cons_of_mem _ hy)) h.2]

/-- A list stands for one list if its items stand for one thing each. -/
theorem array_unique {ps : List (Value × List Char)} {items : List Value}
    (h : IsList (ps.map fun p => p.2) v) (hps : ∀ p ∈ ps, ∀ a, Denotes a p.2 → p.1 = a)
    (h' : Denotes (.array items) v) : ps.map (fun p => p.1) = items := by
  cases h' with
  | array _ h' hps' =>
    refine map_eq_of_determined (fun p hp p' hp' htext => ?_) (h.unique areParts_isItem h')
    have hsame := hps' p' hp'
    rw [← htext] at hsame
    exact hps p hp _ hsame

theorem object_unique {ps : List (String × Value × List Char)} {members : List (String × Value)}
    (h : IsObject (ps.map fun p => (p.1, p.2.2)) v)
    (hps : ∀ p ∈ ps, ∀ a, Denotes a p.2.2 → p.2.1 = a) (h' : Denotes (.object members) v) :
    ps.map (fun p => (p.1, p.2.1)) = members := by
  cases h' with
  | object _ h' hps' =>
    refine map_eq_of_determined (fun p hp p' hp' htext => ?_) (h.unique areParts_isMember h')
    obtain ⟨hkey, htext⟩ := Prod.mk.inj htext
    have hsame := hps' p' hp'
    rw [← htext] at hsame
    rw [hkey, hps p hp _ hsame]

/-- The law of unambiguity: a value of the grammar stands for one thing. -/
theorem Denotes.unique (h : Denotes a v) (h' : Denotes a' v) : a = a' := by
  -- the mark leaves one kind of value for the second, and its parts are compared
  induction h generalizing a' with
  | null =>
    have hmark := Denotes.null.mark_eq h'
    cases a' with
    | null => rfl
    | _ => simp [Value.mark] at hmark
  | true =>
    have hmark := Denotes.true.mark_eq h'
    cases a' with
    | bool b =>
      cases b with
      | true => rfl
      | false => cases h'
    | _ => simp [Value.mark] at hmark
  | false =>
    have hmark := Denotes.false.mark_eq h'
    cases a' with
    | bool b =>
      cases b with
      | true => cases h'
      | false => rfl
    | _ => simp [Value.mark] at hmark
  | number n =>
    have hmark := (Denotes.number n).mark_eq h'
    cases a' with
    | number n' =>
      generalize hds : Nat.toDigits 10 n = ds at h'
      cases h'
      rw [toDigits_inj hds]
    | _ => simp [Value.mark] at hmark
  | string hs =>
    have hmark := (Denotes.string hs).mark_eq h'
    cases a' with
    | string s' =>
      cases h' with
      | string hs' => rw [hs.unique hs']
    | _ => simp [Value.mark] at hmark
  | array hv h hps ih =>
    have hmark := (Denotes.array hv h hps).mark_eq h'
    cases a' with
    | array items => rw [array_unique h (fun p hp _ hsame => ih p hp hsame) h']
    | _ => simp [Value.mark] at hmark
  | object hv h hps ih =>
    have hmark := (Denotes.object hv h hps).mark_eq h'
    cases a' with
    | object members => rw [object_unique h (fun p hp _ hsame => ih p hp hsame) h']
    | _ => simp [Value.mark] at hmark

/-- A text says one thing. -/
theorem IsDocument.unique {text : String} (h : IsDocument a text) (h' : IsDocument a' text) :
    a = a' := by
  obtain ⟨w, v, r, htext, hw, hv, hr⟩ := h
  obtain ⟨w', v', r', htext', hw', hv', hr'⟩ := h'
  have ends : ∀ {cs : List Char}, Blanks cs → EndsNumber cs := fun {cs} hcs => by
    rw [← List.append_nil cs]
    exact EndsNumber.nil.blanks hcs
  obtain ⟨rfl, -⟩ := value_split hw hw' hv.isValue hv'.isValue (ends hr) (ends hr')
    (htext.symm.trans htext')
  exact hv.unique hv'

end Liveness.Json
