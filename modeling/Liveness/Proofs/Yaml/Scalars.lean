import Liveness.Json.Writer
import Liveness.Proofs.Except
import Liveness.Proofs.Json.Decimals
import Liveness.Proofs.Text.Characters
import Liveness.Yaml.Token.Scalar
import Liveness.Yaml.Value

/-! JSON strings as double-quoted scalars, and JSON words as plain ones. The two formats escape
characters alike; a blank next to another one or to a quote stays. -/

namespace Liveness.Yaml

open Liveness.Json (escape)

variable {c : Char} {cs rest s w : List Char} {start finish mark : Mark} {gap : Gap} {n : Nat}

/-- Characters that both formats have in their texts. YAML has no control characters between
ASCII and Latin, breaks lines at the two separators, and has none of the last two code points
of sixteen bits. Control characters below the space are written as escapes. -/
def IsPortable (c : Char) : Prop :=
  ¬ (0x7F ≤ c.toNat ∧ c.toNat ≤ 0x9F) ∧ c ≠ '\u2028' ∧ c ≠ '\u2029' ∧
    c.toNat ≠ 0xFFFE ∧ c.toNat ≠ 0xFFFF

instance : DecidablePred IsPortable := fun _ => inferInstanceAs (Decidable (_ ∧ _))

theorem isPortable_of_visible (h : 0x20 ≤ c.toNat) (h' : c.toNat < 0x7F) : IsPortable c := by
  refine ⟨by omega, ?_, ?_, by omega, by omega⟩
  · rintro rfl
    exact absurd h' (by decide)
  · rintro rfl
    exact absurd h' (by decide)

theorem isAllowed_of_isPortable (h : IsPortable c) (hc : 0x20 ≤ c.toNat) :
    isAllowed c = true := by
  obtain ⟨hcontrol, -, -, hfffe, hffff⟩ := h
  have hvalid : c.toNat < 0xD800 ∨ 0xDFFF < c.toNat ∧ c.toNat < 0x110000 := c.valid
  simp only [isAllowed, Bool.or_eq_true, Bool.and_eq_true, decide_eq_true_eq]
  omega

theorem isBreak_of_isPortable (h : IsPortable c) (hc : 0x20 ≤ c.toNat) : isBreak c = false := by
  obtain ⟨hcontrol, hline, hparagraph, -, -⟩ := h
  have hne : ∀ d : Char, d.toNat < 0x20 ∨ (0x7F ≤ d.toNat ∧ d.toNat ≤ 0x9F) → c ≠ d := by
    rintro d hd rfl
    omega
  simp [isBreak, hne '\n' (by decide), hne '\r' (by decide), hne '\u0085' (by decide), hline,
    hparagraph]

theorem hexNumber?_hexByte : ∀ n < 0x20,
    hexNumber? ('0' :: '0' :: Json.hexByte n) = some n := by decide

theorem readEscape_letter {d : Char} (h : letterEscape? d = some c) (start mark : Mark)
    (rest : List Char) : readEscape start mark (d :: rest) = .ok ⟨c, 1⟩ := by
  rw [readEscape, h]

theorem readEscape_code (h : c.toNat < 0x20) (start mark : Mark) (rest : List Char) :
    readEscape start mark ('u' :: '0' :: '0' :: (Json.hexByte c.toNat ++ rest)) = .ok ⟨c, 5⟩ := by
  have hvalid : c.toNat.isValidChar := c.valid
  have hcode : hexNumber? (('0' :: '0' :: (Json.hexByte c.toNat ++ rest)).take 4) =
      some c.toNat := hexNumber?_hexByte _ h
  rw [readEscape, show letterEscape? 'u' = none from rfl, show codeLength? 'u' = some 4 from rfl]
  dsimp only
  rw [if_pos (by simp [Json.hexByte]), hcode]
  dsimp only
  rw [dif_pos hvalid]
  rfl

/-- An escape of a JSON text stands in a YAML text for the same character. What is not escaped
is no quote and no backslash. -/
theorem escape_cases (c : Char) :
    (∃ d w, escape c = '\\' :: d :: w ∧ isBreak d = false ∧ ∀ start mark rest,
      readEscape start mark (d :: (w ++ rest)) = .ok ⟨c, w.length + 1⟩) ∨
    escape c = [c] ∧ c ≠ '"' ∧ c ≠ '\\' ∧ 0x20 ≤ c.toNat := by
  unfold escape
  split
  · next h =>
    simp only [Bool.or_eq_true, decide_eq_true_eq] at h
    rcases h with rfl | rfl <;> exact .inl ⟨_, [], rfl, by decide, readEscape_letter rfl⟩
  split
  · next h => exact .inl ⟨_, [], rfl, by decide, readEscape_letter (h ▸ rfl)⟩
  split
  · next h => exact .inl ⟨_, [], rfl, by decide, readEscape_letter (h ▸ rfl)⟩
  split
  · next h => exact .inl ⟨_, [], rfl, by decide, readEscape_letter (h ▸ rfl)⟩
  split
  · next h => exact .inl ⟨_, [], rfl, by decide, readEscape_letter (h ▸ rfl)⟩
  split
  · next h => exact .inl ⟨_, [], rfl, by decide, readEscape_letter (h ▸ rfl)⟩
  split
  · next h => exact .inl ⟨_, _, rfl, by decide, readEscape_code h⟩
  · next hquote _ _ _ _ _ hcontrol =>
    simp only [Bool.or_eq_true, decide_eq_true_eq, not_or] at hquote
    exact .inr ⟨rfl, hquote.1, hquote.2, Nat.not_lt.1 hcontrol⟩

/-- Characters from the space on are written as they are, some behind a backslash. -/
theorem escape_of_visible (h : 0x20 ≤ c.toNat) : escape c = ['\\', c] ∨ escape c = [c] := by
  have hcontrol : ∀ d : Char, d.toNat < 0x20 → c ≠ d := by
    rintro d hd rfl
    omega
  unfold escape
  split
  · exact .inl rfl
  · simp [hcontrol, Nat.not_lt.2 h]

theorem isAllowed_of_mem_escape {x : Char} (hc : IsPortable c) (h : x ∈ escape c) :
    isAllowed x = true := by
  by_cases hcontrol : c.toNat < 0x20
  · have key : ∀ n < 0x20, (escape (Char.ofNat n)).all isAllowed = true := by decide
    have hall := Text.forall_char_lt (P := fun c => (escape c).all isAllowed = true) key c hcontrol
    exact List.all_eq_true.1 hall x h
  · have hself : x = '\\' ∨ x = c := by
      rcases escape_of_visible (Nat.not_lt.1 hcontrol) with he | he
      · simpa [he] using h
      · exact .inr (by simpa [he] using h)
    rcases hself with rfl | rfl
    · decide
    · exact isAllowed_of_isPortable hc (Nat.not_lt.1 hcontrol)

@[simp] theorem Mark.advance_zero (m : Mark) : m.advance 0 = m := rfl

@[simp] theorem Mark.advance_advance (m : Mark) (k n : Nat) :
    (m.advance k).advance n = m.advance (k + n) := by
  simp [Mark.advance, Nat.add_assoc]

theorem Mark.column_advance (m : Mark) {n : Nat} (h : 0 < n ∨ 0 < m.column) :
    (m.advance n).column ≠ 0 := by
  simp only [advance]
  omega

theorem Gap.text_blank (h : gap.hasLines = false) (c : Char) :
    (gap.blank c).text = gap.text ++ [c] ∧ (gap.blank c).hasLines = false := by
  cases gap with
  | none => exact ⟨rfl, rfl⟩
  | blanks text => exact ⟨rfl, rfl⟩
  | lines first more => cases h

theorem readQuoted_end (hmark : mark.column ≠ 0) :
    readQuoted false start gap mark ('"' :: cs) = .ok (gap.text, ⟨cs, mark.advance 1⟩) := by
  rw [readQuoted.eq_def]
  simp [isBreak, isBlank, hmark]

theorem readQuoted_space (cs : List Char) :
    readQuoted false start gap mark (' ' :: cs) =
      readQuoted false start (gap.blank ' ') (mark.advance 1) cs := by
  rw [readQuoted.eq_def]
  simp [isBreak, isBlank]

theorem readQuoted_char (hmark : mark.column ≠ 0) (hbreak : isBreak c = false)
    (hblank : isBlank c = false) (hquote : c ≠ '"') (hslash : c ≠ '\\') :
    readQuoted false start gap mark (c :: cs) =
      (readQuoted false start .none (mark.advance 1) cs).map fun r =>
        (gap.text ++ c :: r.1, r.2) := by
  have hreturn : c ≠ '\r' := by
    rintro rfl
    cases hbreak
  rw [readQuoted.eq_def]
  simp [hreturn, hbreak, hblank, hmark, hquote, hslash]

theorem readQuoted_escape {d : Char} {e : Escape} (hmark : mark.column ≠ 0)
    (hd : isBreak d = false) (he : readEscape start mark (d :: cs) = .ok e) :
    readQuoted false start gap mark ('\\' :: d :: cs) =
      (readQuoted false start .none (mark.advance (e.length + 1)) ((d :: cs).drop e.length)).map
        fun r => (gap.text ++ e.char :: r.1, r.2) := by
  have hreturn : d ≠ '\r' := by
    rintro rfl
    cases hd
  have hslash : isBreak '\\' = false ∧ isBlank '\\' = false := ⟨rfl, rfl⟩
  rw [readQuoted.eq_def]
  simp only [List.cons.injEq, Char.reduceEq, imp_false, false_implies, implies_true, hslash, hmark,
    decide_false, Bool.false_and, Bool.false_eq_true, ↓reduceIte, ↓Char.isValue]
  split
  · simp_all
  · next h =>
    cases h
    simp [hd, he]
  · next h => cases h

/-- A JSON string is a double-quoted scalar of the same text. -/
theorem readQuoted_escaped (hs : ∀ c ∈ s, IsPortable c) (hgap : gap.hasLines = false)
    (hmark : mark.column ≠ 0) (rest : List Char) :
    readQuoted false start gap mark (s.flatMap escape ++ '"' :: rest) =
      .ok (gap.text ++ s, ⟨rest, mark.advance ((s.flatMap escape).length + 1)⟩) := by
  induction s generalizing gap mark with
  | nil =>
    rw [List.flatMap_nil, List.nil_append, readQuoted_end hmark, List.append_nil]
    rfl
  | cons c s ih =>
    obtain ⟨hc, hs⟩ := List.forall_mem_cons.1 hs
    have hnext : ∀ n, (mark.advance n).column ≠ 0 := fun n =>
      mark.column_advance (.inr (Nat.pos_of_ne_zero hmark))
    rw [List.flatMap_cons, List.append_assoc]
    rcases escape_cases c with ⟨d, w, he, hd, hread⟩ | ⟨he, hquote, hslash, hvisible⟩
    · have hdrop : (d :: (w ++ (s.flatMap escape ++ '"' :: rest))).drop (w.length + 1) =
          s.flatMap escape ++ '"' :: rest := by simp
      rw [he, List.cons_append, List.cons_append,
        readQuoted_escape hmark hd (hread start mark _)]
      dsimp only
      rw [hdrop, ih hs rfl (hnext _)]
      simp only [Except.map, Gap.text, List.nil_append, Mark.advance_advance, List.length_append,
        List.length_cons]
      rw [show w.length + 1 + 1 + ((s.flatMap escape).length + 1) =
        w.length + 1 + 1 + (s.flatMap escape).length + 1 by omega]
    · rw [he, List.singleton_append]
      by_cases hspace : c = ' '
      · obtain ⟨htext, hlines⟩ := Gap.text_blank hgap c
        rw [hspace, readQuoted_space, ← hspace, ih hs hlines (hnext 1), htext]
        simp [Nat.add_comm]
      · have hblank : isBlank c = false := by
          have htab : c ≠ '\t' := by
            rintro rfl
            exact absurd hvisible (by decide)
          simp [isBlank, hspace, htab]
        rw [readQuoted_char hmark (isBreak_of_isPortable hc hvisible) hblank hquote hslash,
          ih hs rfl (hnext 1)]
        simp [Except.map, Gap.text, Nat.add_comm]

/-- Where a value of a JSON text ends: with the text, or in a collection, which is a flow
collection of YAML, before a comma or the closing bracket. -/
inductive EndsValue (inFlow : Bool) : List Char → Prop
  | text : EndsValue inFlow []
  | bracket {x : Char} {cs : List Char} : inFlow = true → x ∈ [',', ']', '}'] →
      EndsValue inFlow (x :: cs)

theorem ne_of_isAlphanum (h : c.isAlphanum = true) {d : Char} (hd : d.isAlphanum = false) :
    c ≠ d := by
  rintro rfl
  rw [h] at hd
  cases hd

theorem isAllowed_of_isAlphanum (h : c.isAlphanum = true) : isAllowed c = true := by
  have := Text.toNat_of_isAlphanum h
  simp only [isAllowed, Bool.or_eq_true, Bool.and_eq_true, decide_eq_true_eq]
  omega

theorem isBreak_of_isAlphanum (h : c.isAlphanum = true) : isBreak c = false := by
  simp [isBreak, ne_of_isAlphanum h]

theorem isBlank_of_isAlphanum (h : c.isAlphanum = true) : isBlank c = false := by
  simp [isBlank, ne_of_isAlphanum h]

variable {inFlow : Bool} {floor : Nat}

theorem readPlain_cons (h : c.isAlphanum = true) :
    readPlain inFlow floor start .none finish mark (c :: cs) =
      (readPlain inFlow floor start .none (mark.advance 1) (mark.advance 1) cs).map fun p =>
        { p with text := c :: p.text } := by
  have hne : ∀ d : Char, d.isAlphanum = false → c ≠ d := fun _ => ne_of_isAlphanum h
  rw [readPlain.eq_def]
  simp [isBreak_of_isAlphanum h, isBlank_of_isAlphanum h, hasStrayColon, endsPlain, Gap.text, hne]

theorem readPlain_end (h : EndsValue inFlow cs) :
    readPlain inFlow floor start .none finish mark cs = .ok ⟨[], finish, ⟨cs, mark⟩, false⟩ := by
  rw [readPlain.eq_def]
  cases h with
  | text => rfl
  | bracket hflow hx =>
    rw [hflow]
    simp only [List.mem_cons, List.not_mem_nil, or_false] at hx
    rcases hx with rfl | rfl | rfl <;> rfl

/-- A word is a plain scalar up to where the value ends. -/
theorem readPlain_word (hw : ∀ c ∈ w, c.isAlphanum = true) (h : EndsValue inFlow rest) :
    ∃ finish', readPlain inFlow floor start .none finish mark (w ++ rest) =
      .ok ⟨w, finish', ⟨rest, mark.advance w.length⟩, false⟩ := by
  induction w generalizing finish mark with
  | nil => exact ⟨finish, readPlain_end h⟩
  | cons c w ih =>
    obtain ⟨hc, hw⟩ := List.forall_mem_cons.1 hw
    obtain ⟨finish', hread⟩ := ih hw
    refine ⟨finish', ?_⟩
    rw [List.cons_append, readPlain_cons hc, hread]
    simp [Except.map, Nat.add_comm]

theorem nextDigit?_of_isDigit (k : Nat) (h : c.isDigit = true) :
    nextDigit? 10 k c = some (10 * k + (c.toNat - '0'.toNat)) := by
  have hlt : c.toNat - 0x30 < 10 := by
    simp only [Char.isDigit, Bool.and_eq_true, decide_eq_true_eq, UInt32.le_iff_toNat_le] at h
    exact Nat.sub_lt_right_of_lt_add h.1 (Nat.lt_succ_of_le h.2)
  rw [nextDigit?, hexValue?, if_pos h]
  exact if_pos hlt

theorem digits?_of_isDigit (hne : cs ≠ []) (h : ∀ c ∈ cs, c.isDigit = true) :
    digits? 10 cs = some (Nat.ofDigitChars 10 cs 0) := by
  rw [digits?, if_neg hne]
  have hfold : ∀ k, cs.foldlM (nextDigit? 10) k = some (Nat.ofDigitChars 10 cs k) := by
    clear hne
    induction cs with
    | nil => exact fun k => rfl
    | cons c cs ih =>
      obtain ⟨hc, hcs⟩ := List.forall_mem_cons.1 h
      intro k
      rw [List.foldlM_cons, nextDigit?_of_isDigit k hc, Nat.ofDigitChars_cons]
      exact ih hcs _
  exact hfold 0

/-- Digits do not tell of another base. -/
theorem based?_of_isDigit (h : ∀ c ∈ cs, c.isDigit = true) : based? cs = none := by
  unfold based?
  split
  · exact absurd (h 'x' (by simp)) (by decide)
  · exact absurd (h 'o' (by simp)) (by decide)
  · exact absurd (h 'b' (by simp)) (by decide)
  · rfl

theorem unsigned_of_isDigit (h : ∀ c ∈ cs, c.isDigit = true) : unsigned cs = cs := by
  unfold unsigned
  split
  · exact absurd (h '+' List.mem_cons_self) (by decide)
  · exact absurd (h '-' List.mem_cons_self) (by decide)
  · rfl

theorem isZeroLed_decimal (n : Nat) : isZeroLed (Json.decimal n) = false := by
  rw [isZeroLed, Json.decimal, unsigned_of_isDigit fun c => Json.isDigit_of_mem_decimal]
  by_cases hn : n = 0
  · rw [hn]
    rfl
  · have hhead := Json.head?_toDigits (Nat.pos_of_ne_zero hn)
    split
    · next h =>
      rw [h] at hhead
      exact absurd rfl hhead
    · rfl

/-- The decimals of a number are read as it. -/
theorem natural?_decimal (n : Nat) : natural? (Json.decimal n) = some n := by
  have hdigits : ∀ c ∈ Json.decimal n, c.isDigit = true := fun c => Json.isDigit_of_mem_decimal
  have hplus : (Json.decimal n).head? ≠ some '+' := fun h =>
    absurd (hdigits '+' (List.mem_of_head? h)) (by decide)
  rw [natural?, if_neg hplus, based?_of_isDigit hdigits, isZeroLed_decimal, Option.none_or,
    if_neg Bool.false_ne_true]
  exact (digits?_of_isDigit Nat.toDigits_ne_nil hdigits).trans
    (congrArg some Nat.ofDigitChars_ten_toDigits)

theorem isNull_decimal (n : Nat) : isNull (Json.decimal n) = false := by
  have hne : ∀ {x : Char} {xs : List Char}, x.isDigit = false → Json.decimal n ≠ x :: xs := by
    intro x xs hx h
    have hmem : x ∈ Json.decimal n := h ▸ List.mem_cons_self
    exact Bool.false_ne_true (hx.symm.trans (Json.isDigit_of_mem_decimal hmem))
  simp only [isNull, Bool.or_eq_false_iff, decide_eq_false_iff_not]
  exact ⟨⟨⟨hne rfl, hne rfl⟩, hne rfl⟩, hne rfl⟩

theorem word?_decimal (n : UInt64) : word? (Json.decimal n.toNat) = some n := by
  rw [word?, natural?_decimal, Option.bind_some, if_pos n.toNat_lt]
  exact congrArg some UInt64.ofNat_toNat

end Liveness.Yaml
