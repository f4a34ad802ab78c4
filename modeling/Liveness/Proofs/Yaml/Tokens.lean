import Liveness.Proofs.Yaml.Lexer

/-! JSON texts as YAML: their tokens. A value of JSON is a flow node of YAML, and nothing but
the names of members gets a colon. Only names have to be short, since a key stands within
1024 characters before its colon. -/

namespace Liveness.Yaml

open Liveness.Json (Value compact compactItems compactMembers escape quote)

variable {c x : Char} {cs rest : List Char} {n : Nat}

/-- A value whose JSON text can be read as YAML: its characters are portable, and the names of
members are no longer, as they are written, than a key may be before its colon. -/
inductive IsShared : Value → Prop
  | null : IsShared .null
  | bool (b : Bool) : IsShared (.bool b)
  | number (n : Nat) : IsShared (.number n)
  | string {s : String} : (∀ c ∈ s.toList, IsPortable c) → IsShared (.string s)
  | array {items : List Value} : (∀ v ∈ items, IsShared v) → IsShared (.array items)
  | object {members : List (String × Value)} :
      (∀ p ∈ members, ∀ c ∈ p.1.toList, IsPortable c) →
      (∀ p ∈ members, (quote p.1).length ≤ 1024) → (∀ p ∈ members, IsShared p.2) →
      IsShared (.object members)

mutual

/-- The tokens of a value. -/
def symbols : Value → List Symbol
  | .null => [.scalar ['n', 'u', 'l', 'l'] .plain]
  | .bool b => [.scalar (Json.literal b) .plain]
  | .number n => [.scalar (Json.decimal n) .plain]
  | .string s => [.scalar s.toList .double]
  | .array items => .flowSequenceStart :: itemSymbols items
  | .object members => .flowMappingStart :: memberSymbols members

def itemSymbols : List Value → List Symbol
  | [] => [.flowSequenceEnd]
  | [v] => symbols v ++ [.flowSequenceEnd]
  | v :: vs => symbols v ++ .flowEntry :: itemSymbols vs

def memberSymbols : List (String × Value) → List Symbol
  | [] => [.flowMappingEnd]
  | [(k, v)] => .key :: .scalar k.toList .double :: .value :: (symbols v ++ [.flowMappingEnd])
  | (k, v) :: ms =>
    .key :: .scalar k.toList .double :: .value :: (symbols v ++ .flowEntry :: memberSymbols ms)

end

namespace Lexer

variable {s : Lexer}

theorem inFlow_afresh (s : Lexer) : s.afresh.inFlow = s.inFlow := by
  simp [Lexer.afresh, Lexer.inFlow]

theorem At.advances_word {w : List Char} (h : s.At n (w ++ cs)) (hne : w ≠ [])
    (hw : ∀ c ∈ w, c.isAlphanum = true) (hcs : EndsValue s.inFlow cs) :
    ∃ t, s.Advances [.scalar w .plain] t ∧ t.At n cs ∧ t.keyAllowed = false := by
  obtain ⟨c, ds, hds⟩ := List.exists_cons_of_ne_nil hne
  have hc : c.isAlphanum = true := hw c (hds ▸ List.mem_cons_self)
  have hread := h.afresh.reads_word hne hw (s.inFlow_afresh.symm ▸ hcs)
  rw [hds, List.cons_append] at h
  exact h.advances (atToken_of_isAlphanum hc) hread

theorem atToken_mark (h : x ∈ marks) : AtToken (x :: cs) := by
  have key : marks.all (fun x => !isBlank x && !isBreak x && decide (x ≠ '#')) = true := by decide
  rintro y ⟨⟩
  have := List.all_eq_true.1 key x h
  simpa [and_assoc] using this

theorem At.advances_start {symbol : Symbol} (h : s.At n (x :: cs)) (hx : x ∈ marks)
    (hlead : ∀ inFlow column, lead inFlow column x cs = .flowStart symbol) :
    ∃ t, s.Advances [symbol] t ∧ t.At (n + 1) cs ∧ t.keyAllowed = true :=
  h.advances (atToken_mark hx) (h.afresh.reads_start (hlead _ _))

theorem At.advances_end {symbol : Symbol} (h : s.At (n + 1) (x :: cs)) (hx : x ∈ marks)
    (hlead : ∀ inFlow column, lead inFlow column x cs = .flowEnd symbol) :
    ∃ t, s.Advances [symbol] t ∧ t.At n cs ∧ t.keyAllowed = false :=
  h.advances (atToken_mark hx) (h.afresh.reads_end (hlead _ _))

theorem At.advances_comma (h : s.At n (',' :: cs)) :
    ∃ t, s.Advances [.flowEntry] t ∧ t.At n cs ∧ t.keyAllowed = true :=
  h.advances (atToken_mark (by decide)) h.afresh.reads_comma

theorem isAlphanum_of_mem_literal (b : Bool) : ∀ c ∈ Json.literal b, c.isAlphanum = true := by
  cases b <;> exact List.all_eq_true.1 (by decide)

theorem isAlphanum_of_mem_decimal {k : Nat} (h : c ∈ Json.decimal k) : c.isAlphanum = true := by
  rw [Char.isAlphanum, Nat.isDigit_of_mem_toDigits (by decide) (by decide) h, Bool.or_true]

/-- In a flow collection a value ends before a closing bracket or a comma. -/
theorem At.endsValue (h : s.At (n + 1) rest) (hx : x ∈ [',', ']', '}']) :
    EndsValue s.inFlow (x :: cs) :=
  .bracket h.inFlow hx

/-- A lexer gets over a value, wherever the value stands. -/
def Passes (v : Value) : Prop :=
  ∀ {s : Lexer} {n : Nat} {cs : List Char}, s.At n (compact v ++ cs) → EndsValue s.inFlow cs →
    ∃ t, s.Advances (symbols v) t ∧ t.At n cs ∧ t.keyAllowed = false

theorem At.advances_items {items : List Value} (h : s.At (n + 1) (compactItems items ++ cs))
    (hitems : ∀ v ∈ items, Passes v) :
    ∃ t, s.Advances (itemSymbols items) t ∧ t.At n cs ∧ t.keyAllowed = false := by
  induction items generalizing s with
  | nil => exact h.advances_end (by decide) lead_sequenceEnd
  | cons v vs ih =>
    obtain ⟨hv, hvs⟩ := List.forall_mem_cons.1 hitems
    cases vs with
    | nil =>
      rw [compactItems, List.append_assoc] at h
      obtain ⟨t, hvalue, ht, -⟩ := hv h (h.endsValue (by decide))
      obtain ⟨u, hclose, hu⟩ := ht.advances_end (by decide) lead_sequenceEnd
      exact ⟨u, hvalue.trans hclose, hu⟩
    | cons w vs =>
      simp only [compactItems, List.append_assoc, List.cons_append] at h
      obtain ⟨t, hvalue, ht, -⟩ := hv h (h.endsValue (by decide))
      obtain ⟨u, hcomma, hu, -⟩ := ht.advances_comma
      obtain ⟨z, hrest, hz⟩ := ih hu hvs
      refine ⟨z, ?_, hz⟩
      simp only [itemSymbols]
      exact hvalue.trans (hcomma.trans hrest)

theorem At.advances_members {members : List (String × Value)}
    (h : s.At (n + 1) (compactMembers members ++ cs)) (hallowed : s.keyAllowed = true)
    (hnames : ∀ p ∈ members, ∀ c ∈ p.1.toList, IsPortable c)
    (hlength : ∀ p ∈ members, (quote p.1).length ≤ 1024)
    (hvalues : ∀ p ∈ members, Passes p.2) :
    ∃ t, s.Advances (memberSymbols members) t ∧ t.At n cs ∧ t.keyAllowed = false := by
  induction members generalizing s with
  | nil => exact h.advances_end (by decide) lead_mappingEnd
  | cons p ms ih =>
    obtain ⟨k, v⟩ := p
    obtain ⟨hname, hnames⟩ := List.forall_mem_cons.1 hnames
    obtain ⟨hlen, hlength⟩ := List.forall_mem_cons.1 hlength
    obtain ⟨hv, hvalues⟩ := List.forall_mem_cons.1 hvalues
    cases ms with
    | nil =>
      simp only [compactMembers, List.append_assoc, List.cons_append] at h
      obtain ⟨t, hkey, ht⟩ := h.advances_key hallowed hname hlen
      obtain ⟨u, hvalue, hu, -⟩ := hv ht (ht.endsValue (by decide))
      obtain ⟨z, hclose, hz⟩ := hu.advances_end (by decide) lead_mappingEnd
      refine ⟨z, ?_, hz⟩
      simp only [memberSymbols]
      exact hkey.trans (hvalue.trans hclose)
    | cons m ms =>
      simp only [compactMembers, List.append_assoc, List.cons_append] at h
      obtain ⟨t, hkey, ht⟩ := h.advances_key hallowed hname hlen
      obtain ⟨u, hvalue, hu, -⟩ := hv ht (ht.endsValue (by decide))
      obtain ⟨y, hcomma, hy, hnext⟩ := hu.advances_comma
      obtain ⟨z, hrest, hz⟩ := ih hy hnext hnames hlength hvalues
      refine ⟨z, ?_, hz⟩
      simp only [memberSymbols]
      exact hkey.trans (hvalue.trans (hcomma.trans hrest))

theorem passes_of_isShared {v : Value} (hv : IsShared v) : Passes v := by
  induction hv with
  | null =>
    intro s n cs h hcs
    exact h.advances_word (List.cons_ne_nil _ _) (List.all_eq_true.1 (by decide)) hcs
  | bool b =>
    intro s n cs h hcs
    exact h.advances_word (by cases b <;> exact List.cons_ne_nil _ _) (isAlphanum_of_mem_literal b)
      hcs
  | number k =>
    intro s n cs h hcs
    exact h.advances_word Nat.toDigits_ne_nil (fun _ hc => isAlphanum_of_mem_decimal hc) hcs
  | string htext =>
    intro s n cs h hcs
    exact h.advances (atToken_quote _) (h.afresh.reads_quote htext)
  | array _ ih =>
    intro s n cs h hcs
    obtain ⟨t, hstart, ht, -⟩ := h.advances_start (by decide) lead_sequenceStart
    obtain ⟨u, hrest, hu⟩ := ht.advances_items ih
    exact ⟨u, hstart.trans hrest, hu⟩
  | object hnames hlength _ ih =>
    intro s n cs h hcs
    obtain ⟨t, hstart, ht, hallowed⟩ := h.advances_start (by decide) lead_mappingStart
    obtain ⟨u, hrest, hu⟩ := ht.advances_members hallowed hnames hlength ih
    exact ⟨u, hstart.trans hrest, hu⟩

theorem At.finish (h : s.At 0 cs) : ∃ t, s.finish = .ok t ∧
    t.pending.map Token.symbol = s.pending.map Token.symbol ++ [.streamEnd] := by
  have hend : ∀ m : Mark, ({ s with cursor := ⟨[], m⟩ } : Lexer).At 0 [] := fun _ =>
    ⟨rfl, h.depth, h.indents, h.optional⟩
  unfold Lexer.finish
  dsimp only
  rw [(hend _).closeBlocks, (hend _).dropKey]
  dsimp only [Except.bind]
  rw [((hend _).withoutKey.take _ _ _).expire]
  exact ⟨_, rfl, by simp [Lexer.afresh, Lexer.take]⟩

/-- The end of the text. -/
theorem At.run_end (h : s.At 0 []) :
    s.run.2 = none ∧ s.run.1.map Token.symbol = s.pending.map Token.symbol ++ [.streamEnd] := by
  have happroach : s.approach = .ok s.afresh := h.approach (by rintro x ⟨⟩)
  obtain ⟨t, hfinish, hpending⟩ := h.afresh.finish
  have hrun : s.run = (t.pending, none) := by
    rw [run]
    split
    · simp_all
    · next a ha =>
      cases happroach.symm.trans ha
      split
      · rw [hfinish]
      · next hrest => cases h.afresh.rest.symm.trans hrest
  rw [hrun]
  exact ⟨rfl, hpending⟩

end Lexer

theorem isAllowed_of_mem_quote {s : String} (hs : ∀ c ∈ s.toList, IsPortable c)
    (h : x ∈ quote s) : isAllowed x = true := by
  simp only [quote, List.mem_cons, List.mem_append, List.mem_flatMap, List.not_mem_nil,
    or_false] at h
  rcases h with (rfl | ⟨c, hc, hx⟩) | rfl
  · decide
  · exact isAllowed_of_mem_escape (hs c hc) hx
  · decide

theorem isAllowed_of_mem_marks : ∀ x ∈ marks, isAllowed x = true := List.all_eq_true.1 (by decide)

theorem mem_compactItems {items : List Value} (h : x ∈ compactItems items) :
    x ∈ marks ∨ ∃ v ∈ items, x ∈ compact v := by
  induction items with
  | nil => exact .inl (List.mem_singleton.1 h ▸ by decide)
  | cons v vs ih =>
    have hlater : x ∈ compactItems vs → x ∈ marks ∨ ∃ u ∈ v :: vs, x ∈ compact u := fun hx =>
      (ih hx).imp_right fun ⟨u, hu, hx⟩ => ⟨u, List.mem_cons_of_mem v hu, hx⟩
    cases vs with
    | nil =>
      rw [compactItems, List.mem_append] at h
      rcases h with h | h
      · exact .inr ⟨v, List.mem_cons_self, h⟩
      · exact hlater h
    | cons w vs =>
      simp only [compactItems, List.mem_append, List.mem_cons] at h
      rcases h with h | rfl | h
      · exact .inr ⟨v, List.mem_cons_self, h⟩
      · exact .inl (by decide)
      · exact hlater h

theorem mem_compactMembers {members : List (String × Value)} (h : x ∈ compactMembers members) :
    x ∈ marks ∨ ∃ p ∈ members, x ∈ quote p.1 ∨ x ∈ compact p.2 := by
  induction members with
  | nil => exact .inl (List.mem_singleton.1 h ▸ by decide)
  | cons p ms ih =>
    have hlater : x ∈ compactMembers ms →
        x ∈ marks ∨ ∃ q ∈ p :: ms, x ∈ quote q.1 ∨ x ∈ compact q.2 := fun hx =>
      (ih hx).imp_right fun ⟨q, hq, hx⟩ => ⟨q, List.mem_cons_of_mem p hq, hx⟩
    have hmember : x ∈ quote p.1 ++ ':' :: compact p.2 →
        x ∈ marks ∨ ∃ q ∈ p :: ms, x ∈ quote q.1 ∨ x ∈ compact q.2 := by
      intro hx
      rw [List.mem_append, List.mem_cons] at hx
      rcases hx with hx | rfl | hx
      · exact .inr ⟨p, List.mem_cons_self, .inl hx⟩
      · exact .inl (by decide)
      · exact .inr ⟨p, List.mem_cons_self, .inr hx⟩
    cases ms with
    | nil =>
      rw [compactMembers, List.mem_append] at h
      exact h.elim hmember hlater
    | cons m ms =>
      simp only [compactMembers] at h
      rw [List.mem_append, List.mem_cons] at h
      rcases h with h | rfl | h
      · exact hmember h
      · exact .inl (by decide)
      · exact hlater h

theorem isAllowed_of_mem_compact {v : Value} (hv : IsShared v) :
    ∀ x ∈ compact v, isAllowed x = true := by
  induction hv with
  | null => exact List.all_eq_true.1 (by decide)
  | bool b => cases b <;> exact List.all_eq_true.1 (by decide)
  | number k => exact fun x hx => isAllowed_of_isAlphanum (Lexer.isAlphanum_of_mem_decimal hx)
  | string htext => exact fun x hx => isAllowed_of_mem_quote htext hx
  | array _ ih =>
    intro x hx
    rcases List.mem_cons.1 hx with rfl | hx
    · decide
    · obtain hx | ⟨v, hv, hx⟩ := mem_compactItems hx
      · exact isAllowed_of_mem_marks x hx
      · exact ih v hv x hx
  | object hnames _ _ ih =>
    intro x hx
    rcases List.mem_cons.1 hx with rfl | hx
    · decide
    · obtain hx | ⟨p, hp, hx | hx⟩ := mem_compactMembers hx
      · exact isAllowed_of_mem_marks x hx
      · exact isAllowed_of_mem_quote (hnames p hp) hx
      · exact ih p hp x hx

theorem firstRefused_eq_none (h : ∀ x ∈ cs, isAllowed x = true) (offset : Nat) :
    firstRefused offset cs = none := by
  induction cs generalizing offset with
  | nil => rfl
  | cons c cs ih =>
    obtain ⟨hc, hcs⟩ := List.forall_mem_cons.1 h
    rw [firstRefused, if_pos hc]
    exact ih hcs _

/-- No JSON text begins with a byte order mark. -/
theorem head?_compact (v : Value) : (compact v).head? ≠ some '\ufeff' := by
  cases v with
  | null => simp [compact]
  | bool b => cases b <;> simp [compact, Json.literal]
  | number k =>
    intro h
    have := Lexer.isAlphanum_of_mem_decimal (List.mem_of_mem_head? h)
    cases this
  | string s => simp [compact, quote]
  | array items => simp [compact]
  | object members => simp [compact]

theorem ofText_compact {v : Value} (hv : IsShared v) :
    Cursor.ofText v.compact = .ok ⟨compact v, .start⟩ := by
  rw [Cursor.ofText, Value.compact, String.toList_ofList,
    firstRefused_eq_none (isAllowed_of_mem_compact hv)]
  dsimp only
  split
  · next h => exact absurd (by rw [h]; rfl) (head?_compact v)
  · rfl

/-- The tokens of a JSON text. -/
theorem tokens_compact {v : Value} (hv : IsShared v) :
    ∃ ts, tokens v.compact = (ts, none) ∧ ts.map Token.symbol = symbols v ++ [.streamEnd] := by
  have hstart : (Lexer.start ⟨compact v, .start⟩).At 0 (compact v ++ []) := by
    refine ⟨(List.append_nil _).symm, rfl, rfl, ?_⟩
    simp [Lexer.start]
  obtain ⟨t, ⟨out, hrun, hnew⟩, ht, -⟩ := Lexer.passes_of_isShared hv hstart .text
  obtain ⟨hnone, hlast⟩ := ht.run_end
  refine ⟨out ++ t.run.1, ?_, ?_⟩
  · rw [tokens, ofText_compact hv]
    dsimp only
    rw [hrun, hnone]
  · rw [List.map_append, hlast, ← List.append_assoc, ← List.map_append, hnew]
    rfl

end Liveness.Yaml
