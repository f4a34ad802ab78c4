import Liveness.Proofs.Yaml.Scalars
import Liveness.Yaml.Token.Lexer

/-! A lexer in a JSON text: what it makes of each token. The text stands on one line, has no
blanks outside of strings, and opens no block. A quoted scalar waits as a possible key until
the next token shows whether it is one. -/

namespace Liveness.Yaml

open Liveness.Json (escape quote)

variable {c x : Char} {cs rest : List Char} {m n : Nat}

/-- What stands around values. -/
def marks : List Char := ['[', ']', '{', '}', ',', ':']

namespace Lexer

variable {s t u : Lexer} {symbol : Symbol} {as bs new : List Symbol} {allowed : Bool}

/-- Whether nothing has to be passed over to get to a token. -/
def AtToken (cs : List Char) : Prop :=
  ∀ x ∈ cs.head?, isBlank x = false ∧ isBreak x = false ∧ x ≠ '#'

theorem atToken_of_isAlphanum (h : c.isAlphanum = true) : AtToken (c :: cs) := by
  rintro x ⟨⟩
  exact ⟨isBlank_of_isAlphanum h, isBreak_of_isAlphanum h, ne_of_isAlphanum h (by decide)⟩

theorem skipGaps_of_atToken {c : Cursor} (h : AtToken c.rest) (inFlow keyAllowed : Bool) :
    skipGaps inFlow keyAllowed c = (keyAllowed, c) := by
  have hstay : ((c.skipWhile fun x => x = ' ' || ((inFlow || !keyAllowed) && x = '\t'))).skipComment
      = c := by
    obtain ⟨cs, mark⟩ := c
    cases cs with
    | nil => rfl
    | cons x cs =>
      obtain ⟨hblank, -, hcomment⟩ := h x rfl
      simp only [isBlank, Bool.or_eq_false_iff, decide_eq_false_iff_not] at hblank
      simp [Cursor.skipWhile, Cursor.skipComment, Cursor.advance, hblank, hcomment]
  have hbreak : (c.rest.head?.any isBreak) = false := by
    cases hc : c.rest.head? with
    | none => rfl
    | some x => exact (h x hc).2.1
  rw [skipGaps, hstay, dif_neg (by simp [hbreak])]

/-- Where a lexer stands in a JSON text: in front of `cs`, in as many flow collections as
`depth` says and in no block collection, so that no key is required. -/
structure At (s : Lexer) (depth : Nat) (cs : List Char) : Prop where
  rest : s.cursor.rest = cs
  depth : s.outer.length = depth
  indents : s.indents = []
  optional : ∀ k, some k ∈ s.key :: s.outer → k.required = false

/-- A lexer without the keys that are stale. -/
def afresh (s : Lexer) : Lexer :=
  { s with key := fresh s.cursor.mark s.key, outer := s.outer.map (fresh s.cursor.mark) }

theorem eq_of_fresh {k : Option SimpleKey} {k' : SimpleKey} {m : Mark} (h : fresh m k = some k') :
    k = some k' :=
  (Option.filter_eq_some_iff.1 h).1

theorem At.afresh (h : s.At n cs) : s.afresh.At n cs := by
  refine ⟨h.rest, by rw [Lexer.afresh, List.length_map, h.depth], h.indents, fun k hk => ?_⟩
  apply h.optional
  rcases List.mem_cons.1 hk with hk | hk
  · exact List.mem_cons.2 (.inl (eq_of_fresh hk.symm).symm)
  · obtain ⟨o, ho, hf⟩ := List.mem_map.1 hk
    exact List.mem_cons_of_mem _ (eq_of_fresh hf ▸ ho)

theorem At.expire (h : s.At n cs) : s.expire = .ok s.afresh := by
  have hnone : s.staleKey? = none := by
    refine List.findSome?_eq_none_iff.2 fun k hk => ?_
    cases k with
    | none => rfl
    | some k => simp [h.optional k hk]
  rw [Lexer.expire, hnone]
  rfl

theorem At.closeBlocks (h : s.At n cs) (p : Nat → Bool) : s.closeBlocks p = s := by
  unfold Lexer.closeBlocks
  split
  · rfl
  · simp only [h.indents, List.takeWhile_nil, List.map_nil, List.append_nil, List.drop_nil]
    rw [← h.indents]

theorem At.approach (h : s.At n cs) (hcs : AtToken cs) : s.approach = .ok s.afresh := by
  rw [Lexer.approach, skipGaps_of_atToken (h.rest.symm ▸ hcs)]
  change (Lexer.expire s).map _ = _
  rw [h.expire]
  exact congrArg Except.ok (h.afresh.closeBlocks _)

theorem At.dropKey (h : s.At n cs) : s.dropKey = .ok { s with key := none } := by
  unfold Lexer.dropKey
  split
  · next k hk =>
    have hfree : k.required = false := h.optional k (List.mem_cons.2 (.inl hk.symm))
    rw [hfree]
    rfl
  · next hk => rw [← hk]

/-- The possible key as from the next token on: where a key is allowed, that token. -/
def candidate (s : Lexer) : Option SimpleKey :=
  if s.keyAllowed then some ⟨false, s.number, s.cursor.mark⟩ else s.key

theorem At.saveKey (h : s.At n cs) : s.saveKey = .ok { s with key := s.candidate } := by
  unfold Lexer.saveKey candidate
  split
  · rw [h.dropKey, h.indents]
    simp [Except.map, number]
  · rfl

/-- Another possible key changes nothing as long as it is not required. -/
theorem At.withKey (h : s.At n cs) {key : Option SimpleKey}
    (hkey : ∀ k, key = some k → k.required = false) : ({ s with key } : Lexer).At n cs := by
  refine ⟨h.rest, h.depth, h.indents, fun k hk => ?_⟩
  rcases List.mem_cons.1 hk with hk | hk
  · exact hkey k hk.symm
  · exact h.optional k (List.mem_cons_of_mem _ hk)

theorem At.withoutKey (h : s.At n cs) : ({ s with key := none } : Lexer).At n cs :=
  h.withKey (by simp)

theorem At.withCandidate (h : s.At n cs) : ({ s with key := s.candidate } : Lexer).At n cs := by
  refine h.withKey fun k hk => ?_
  unfold candidate at hk
  split at hk
  · cases hk
    rfl
  · exact h.optional k (List.mem_cons.2 (.inl hk.symm))

theorem At.inFlow (h : s.At (n + 1) cs) : s.inFlow = true := by
  obtain ⟨k, outer, hk⟩ := List.exists_cons_of_length_eq_add_one h.depth
  rw [Lexer.inFlow, hk]
  rfl

theorem foldl_le {f : Nat → Option SimpleKey → Nat} (hf : ∀ n k, f n k ≤ n)
    (ks : List (Option SimpleKey)) (n : Nat) : ks.foldl f n ≤ n := by
  induction ks generalizing n with
  | nil => exact Nat.le_refl n
  | cons k ks ih => exact Nat.le_trans (ih (f n k)) (hf n k)

/-- Tokens are given one after the other, up to where a key may have to be put in. -/
theorem ready_le (s : Lexer) :
    s.ready ≤ s.pending.length ∧ ∀ k, s.key = some k → s.ready ≤ k.number - s.released := by
  obtain ⟨f, hready, hless, hkey⟩ : ∃ f : Nat → Option SimpleKey → Nat,
      s.ready = (s.key :: s.outer).foldl f s.pending.length ∧ (∀ n k, f n k ≤ n) ∧
      ∀ n k, f n (some k) ≤ k.number - s.released := by
    refine ⟨_, rfl, fun n k => ?_, fun n k => Nat.min_le_right _ _⟩
    cases k with
    | none => exact Nat.le_refl n
    | some k => exact Nat.min_le_left _ _
  rw [hready]
  refine ⟨foldl_le hless _ _, fun k hk => ?_⟩
  rw [List.foldl_cons, hk]
  exact Nat.le_trans (foldl_le hless _ _) (hkey _ _)

theorem At.release (h : s.At n cs) : s.release.2.At n cs :=
  ⟨h.rest, h.depth, h.indents, h.optional⟩

theorem run_of_fetch {a b : Lexer} (ha : s.approach = .ok a) (hrest : a.cursor.rest ≠ [])
    (hb : a.fetch.bind Lexer.expire = .ok b) :
    s.run = (b.release.1 ++ b.release.2.run.1, b.release.2.run.2) := by
  rw [run]
  split
  · simp_all
  · next a' ha' =>
    cases ha.symm.trans ha'
    split
    · contradiction
    · split
      · next hf => cases hb.symm.trans hf
      · next hf =>
        cases hb.symm.trans hf
        rfl

/-- From `s` a lexer gets to `t`, and what it has found by then is what waited at `s` and
`new`; some of that it has given. -/
def Advances (s : Lexer) (new : List Symbol) (t : Lexer) : Prop :=
  ∃ out : List Token, s.run = (out ++ t.run.1, t.run.2) ∧
    (out ++ t.pending).map Token.symbol = s.pending.map Token.symbol ++ new

theorem Advances.trans (h : s.Advances as t) (h' : t.Advances bs u) :
    s.Advances (as ++ bs) u := by
  obtain ⟨out, hrun, hnew⟩ := h
  obtain ⟨out', hrun', hnew'⟩ := h'
  refine ⟨out ++ out', ?_, ?_⟩
  · rw [hrun, hrun', List.append_assoc]
  · rw [List.append_assoc, List.map_append, hnew', ← List.append_assoc, ← List.map_append, hnew,
      List.append_assoc]

/-- A token has been read: `new` is what waits at `t` beyond what waited at `s`. -/
structure Reads (s : Lexer) (new : List Symbol) (t : Lexer) : Prop where
  fetch : s.fetch = .ok t
  pending : t.pending.map Token.symbol = s.pending.map Token.symbol ++ new

theorem release_append (s : Lexer) : s.release.1 ++ s.release.2.pending = s.pending :=
  List.take_append_drop _ _

/-- One step of a run: a token is read, and what can be given is given. -/
theorem At.run_eq (h : s.At n (x :: cs)) (hx : AtToken (x :: cs)) (hfetch : s.afresh.fetch = .ok t)
    (ht : t.At m rest) : s.run =
      (t.afresh.release.1 ++ t.afresh.release.2.run.1, t.afresh.release.2.run.2) := by
  apply run_of_fetch (h.approach hx)
  · rw [h.afresh.rest]
    exact List.cons_ne_nil x cs
  · rw [hfetch]
    exact ht.expire

/-- One token after another. -/
theorem At.advances (h : s.At n (x :: cs)) (hx : AtToken (x :: cs))
    (hread : ∃ t, s.afresh.Reads new t ∧ t.At m rest ∧ t.keyAllowed = allowed) :
    ∃ t, s.Advances new t ∧ t.At m rest ∧ t.keyAllowed = allowed := by
  obtain ⟨t, hread, ht, hallowed⟩ := hread
  refine ⟨_, ⟨_, h.run_eq hx hread.fetch ht, ?_⟩, ht.afresh.release, hallowed⟩
  rw [release_append]
  exact hread.pending

theorem At.indicator (h : s.At n (x :: cs)) (symbol : Symbol) (keyAllowed : Bool) :
    (s.indicator symbol keyAllowed).At n cs := by
  refine ⟨?_, h.depth, h.indents, h.optional⟩
  simp [Lexer.indicator, take, Cursor.advance, h.rest]

theorem symbol_indicator (s : Lexer) (symbol : Symbol) (keyAllowed : Bool) :
    (s.indicator symbol keyAllowed).pending.map Token.symbol =
      s.pending.map Token.symbol ++ [symbol] := by
  simp [Lexer.indicator, take]

theorem At.take (h : s.At n cs) (token : Token) (mark : Mark) (keyAllowed : Bool) :
    (s.take token ⟨rest, mark⟩ keyAllowed).At n rest :=
  ⟨rfl, h.depth, h.indents, h.optional⟩

/-- The start of a collection. What may be a key waits outside of it. -/
theorem At.reads_start (h : s.At n (x :: cs))
    (hlead : lead s.inFlow s.cursor.mark.column x cs = .flowStart symbol) :
    ∃ t, s.Reads [symbol] t ∧ t.At (n + 1) cs ∧ t.keyAllowed = true := by
  have hopen : ({ s with key := none, outer := s.candidate :: s.outer } : Lexer).At (n + 1)
      (x :: cs) := by
    refine ⟨h.rest, congrArg (· + 1) h.depth, h.indents, fun k hk => ?_⟩
    rcases List.mem_cons.1 hk with hk | hk
    · cases hk
    · exact h.withCandidate.optional k hk
  refine ⟨_, ⟨?_, ?_⟩, hopen.indicator symbol true, rfl⟩
  · rw [fetch, h.rest]
    simp only [hlead, h.saveKey, Except.map]
  · exact symbol_indicator _ _ _

/-- The end of a collection. -/
theorem At.reads_end (h : s.At (n + 1) (x :: cs))
    (hlead : lead s.inFlow s.cursor.mark.column x cs = .flowEnd symbol) :
    ∃ t, s.Reads [symbol] t ∧ t.At n cs ∧ t.keyAllowed = false := by
  obtain ⟨k, outer, hk⟩ := List.exists_cons_of_length_eq_add_one h.depth
  have hclosed : ({ s with key := k, outer } : Lexer).At n (x :: cs) := by
    have hdepth := h.depth
    rw [hk] at hdepth
    refine ⟨h.rest, Nat.succ.inj hdepth, h.indents, fun k' hk' => ?_⟩
    exact h.optional k' (List.mem_cons_of_mem _ (hk ▸ hk'))
  refine ⟨_, ⟨?_, ?_⟩, hclosed.indicator symbol false, rfl⟩
  · rw [fetch, h.rest]
    simp only [hlead, h.dropKey, Except.map, hk]
  · exact symbol_indicator _ _ _

theorem startsWithThree_cons (h : x ≠ c) : startsWithThree c (x :: cs) = false := by
  unfold startsWithThree
  split
  · simp_all
  · rfl

theorem lead_comma (inFlow : Bool) (column : Nat) : lead inFlow column ',' cs = .flowEntry := by
  simp [lead, startsWithThree_cons]

theorem lead_sequenceStart (inFlow : Bool) (column : Nat) :
    lead inFlow column '[' cs = .flowStart .flowSequenceStart := by
  simp [lead, startsWithThree_cons]

theorem lead_sequenceEnd (inFlow : Bool) (column : Nat) :
    lead inFlow column ']' cs = .flowEnd .flowSequenceEnd := by
  simp [lead, startsWithThree_cons]

theorem lead_mappingStart (inFlow : Bool) (column : Nat) :
    lead inFlow column '{' cs = .flowStart .flowMappingStart := by
  simp [lead, startsWithThree_cons]

theorem lead_mappingEnd (inFlow : Bool) (column : Nat) :
    lead inFlow column '}' cs = .flowEnd .flowMappingEnd := by
  simp [lead, startsWithThree_cons]

/-- A comma, behind which a key is allowed. -/
theorem At.reads_comma (h : s.At n (',' :: cs)) :
    ∃ t, s.Reads [.flowEntry] t ∧ t.At n cs ∧ t.keyAllowed = true := by
  refine ⟨_, ⟨?_, ?_⟩, h.withoutKey.indicator .flowEntry true, rfl⟩
  · rw [fetch, h.rest]
    simp only [lead_comma, h.dropKey, Except.map]
  · exact symbol_indicator _ _ _

theorem lead_quote (inFlow : Bool) (column : Nat) : lead inFlow column '"' cs = .quoted false := by
  simp [lead, startsWithThree_cons]

theorem At.fetch_quote {k : String} (h : s.At n (quote k ++ cs))
    (hk : ∀ c ∈ k.toList, IsPortable c) :
    s.fetch = .ok (({ s with key := s.candidate } : Lexer).take
      ⟨.scalar k.toList .double, s.cursor.mark, s.cursor.mark.advance (quote k).length⟩
      ⟨cs, s.cursor.mark.advance (quote k).length⟩ false) := by
  have hrest : s.cursor.rest = '"' :: (k.toList.flatMap escape ++ '"' :: cs) := by
    simp [h.rest, quote]
  have hlength : 1 + ((k.toList.flatMap escape).length + 1) = (quote k).length := by
    simp [quote, Nat.add_comm]
  have hread : readQuoted false s.cursor.mark .none (s.cursor.mark.advance 1)
      (k.toList.flatMap escape ++ '"' :: cs) =
      .ok (k.toList, ⟨cs, s.cursor.mark.advance (quote k).length⟩) := by
    rw [readQuoted_escaped hk rfl (s.cursor.mark.column_advance (.inl Nat.one_pos)),
      Mark.advance_advance, hlength]
    rfl
  rw [fetch, hrest]
  simp only [lead_quote, h.saveKey, Except.bind, Cursor.advance, hrest, List.drop_succ_cons,
    List.drop_zero]
  rw [hread]
  rfl

theorem lead_alphanum (hx : x.isAlphanum = true) (inFlow : Bool) (column : Nat) :
    lead inFlow column x cs = .plain := by
  have hne : ∀ d : Char, d.isAlphanum = false → x ≠ d := fun _ => ne_of_isAlphanum hx
  simp [lead, startsWithThree_cons, isBlank_of_isAlphanum hx, isBreak_of_isAlphanum hx, hne]

/-- A word. -/
theorem At.reads_word {w : List Char} (h : s.At n (w ++ cs)) (hne : w ≠ [])
    (hw : ∀ c ∈ w, c.isAlphanum = true) (hcs : EndsValue s.inFlow cs) :
    ∃ t, s.Reads [.scalar w .plain] t ∧ t.At n cs ∧ t.keyAllowed = false := by
  obtain ⟨c, w, rfl⟩ := List.exists_cons_of_ne_nil hne
  obtain ⟨hc, hw⟩ := List.forall_mem_cons.1 hw
  obtain ⟨finish, hread⟩ := @readPlain_word cs w s.cursor.mark (s.cursor.mark.advance 1)
    (s.cursor.mark.advance 1) s.inFlow s.floor hw hcs
  refine ⟨_, ⟨?_, ?_⟩, h.withCandidate.take ⟨.scalar (c :: w) .plain, s.cursor.mark, finish⟩
    ((s.cursor.mark.advance 1).advance w.length) false, rfl⟩
  · rw [List.cons_append] at h
    rw [fetch, h.rest]
    simp only [lead_alphanum hc, h.saveKey, Except.bind, Cursor.advance, h.rest,
      List.drop_succ_cons, List.drop_zero]
    change Except.map _ (readPlain s.inFlow s.floor _ _ _ _ _) = _
    rw [hread]
    rfl
  · simp [Lexer.take]

theorem At.reads_quote {k : String} (h : s.At n (quote k ++ cs))
    (hk : ∀ c ∈ k.toList, IsPortable c) :
    ∃ t, s.Reads [.scalar k.toList .double] t ∧ t.At n cs ∧ t.keyAllowed = false :=
  ⟨_, ⟨h.fetch_quote hk, by simp [Lexer.take]⟩, h.withCandidate.take _ _ _, rfl⟩

/-- The last token that waits, behind `before`, may be a key. -/
structure Waits (s : Lexer) (before : List Token) (token : Token) : Prop where
  pending : s.pending = before ++ [token]
  key : ∃ k, s.key = some k ∧ k.isStale s.cursor.mark = false ∧
    k.number = s.released + before.length

variable {before : List Token} {token : Token}

theorem Waits.afresh (h : s.Waits before token) : s.afresh.Waits before token := by
  obtain ⟨hpending, k, hk, hstale, hnumber⟩ := h
  refine ⟨hpending, k, ?_, hstale, hnumber⟩
  simp [Lexer.afresh, fresh, hk, hstale]

/-- A token that may be a key is not given. -/
theorem Waits.release (h : s.Waits before token) :
    s.release.2.Waits (before.drop s.ready) token ∧
      s.release.1 ++ before.drop s.ready = before := by
  obtain ⟨hpending, k, hk, hstale, hnumber⟩ := h
  have hready : s.ready ≤ before.length := by
    have := s.ready_le.2 k hk
    omega
  refine ⟨⟨?_, k, hk, hstale, ?_⟩, ?_⟩
  · simp only [Lexer.release, hpending]
    exact List.drop_append_of_le_length hready
  · simp only [Lexer.release, List.length_drop]
    omega
  · simp only [Lexer.release, hpending]
    rw [List.take_append_of_le_length hready, List.take_append_drop]

theorem atToken_quote (k : String) : AtToken (quote k ++ cs) := by
  rintro x ⟨⟩
  decide

/-- The name of a member is read, and waits. -/
theorem At.waits {k : String} (h : s.At n (quote k ++ cs)) (hallowed : s.keyAllowed = true)
    (hk : ∀ c ∈ k.toList, IsPortable c) (hlength : (quote k).length ≤ 1024) :
    ∃ (t : Lexer) (out before : List Token) (token : Token),
      s.run = (out ++ t.run.1, t.run.2) ∧ out ++ before = s.pending ∧
      token.symbol = .scalar k.toList .double ∧ t.Waits before token ∧ t.At n cs := by
  let mark := s.cursor.mark.advance (quote k).length
  let token : Token := ⟨.scalar k.toList .double, s.cursor.mark, mark⟩
  let t := ({ s.afresh with key := s.afresh.candidate } : Lexer).take token ⟨cs, mark⟩ false
  have ht : t.At n cs := h.afresh.withCandidate.take token mark false
  have hwaits : t.Waits s.pending token := by
    refine ⟨rfl, ⟨false, s.number, s.cursor.mark⟩, ?_, ?_, rfl⟩
    · change candidate _ = _
      rw [candidate, show s.afresh.keyAllowed = true from hallowed]
      rfl
    · simp [SimpleKey.isStale, t, Lexer.take, mark, Mark.advance, hlength]
  obtain ⟨hlast, hout⟩ := hwaits.afresh.release
  exact ⟨_, _, _, token, h.run_eq (atToken_quote k) (h.afresh.fetch_quote hk) ht, hout, rfl, hlast,
    ht.afresh.release⟩

theorem insertIdx_length (before : List Token) (key token : Token) :
    (before ++ [token]).insertIdx before.length key = before ++ [key, token] := by
  induction before with
  | nil => rfl
  | cons t before ih => simp [ih]

theorem lead_colon (column : Nat) : lead true column ':' cs = .value := by
  simp [lead, startsWithThree_cons]

/-- Flow collections open no block. -/
theorem openBlock_of_inFlow (h : s.inFlow = true) (column number : Nat) (symbol : Symbol)
    (m : Mark) : s.openBlock column number symbol m = s := by
  rw [openBlock, h]
  rfl

/-- The colon makes a key of the token before it. -/
theorem At.run_colon (h : s.At (n + 1) (':' :: cs)) (hwaits : s.Waits before token) :
    ∃ (t : Lexer) (out : List Token), s.run = (out ++ t.run.1, t.run.2) ∧ t.At (n + 1) cs ∧
      (out ++ t.pending).map Token.symbol =
        before.map Token.symbol ++ [.key, token.symbol, .value] := by
  obtain ⟨hpending, k, hkey, -, hnumber⟩ := hwaits.afresh
  let key : Token := ⟨.key, k.mark, k.mark⟩
  let t := ({ s.afresh.insert k.number key with key := none } : Lexer).indicator .value false
  have ht : t.At (n + 1) cs := by
    refine At.indicator (x := ':') ?_ _ _
    have := h.afresh.withoutKey
    exact ⟨this.rest, this.depth, this.indents, this.optional⟩
  have hfetch : s.afresh.fetch = .ok t := by
    rw [fetch, h.afresh.rest]
    simp only [h.afresh.inFlow, lead_colon, value, hkey]
    rw [openBlock_of_inFlow (by exact h.afresh.inFlow)]
  have hinsert : (s.afresh.insert k.number key).pending = before ++ [key, token] := by
    rw [insert, hpending, hnumber, Nat.add_sub_cancel_left]
    exact insertIdx_length before key token
  refine ⟨_, _, h.run_eq ?_ hfetch ht, ht.afresh.release, ?_⟩
  · rintro x ⟨⟩
    decide
  · rw [release_append]
    change t.pending.map _ = _
    rw [symbol_indicator]
    change (s.afresh.insert k.number key).pending.map _ ++ _ = _
    simp [hinsert, key]

theorem At.advances_key {k : String} (h : s.At (n + 1) (quote k ++ ':' :: cs))
    (hallowed : s.keyAllowed = true) (hk : ∀ c ∈ k.toList, IsPortable c)
    (hlength : (quote k).length ≤ 1024) :
    ∃ t, s.Advances [.key, .scalar k.toList .double, .value] t ∧ t.At (n + 1) cs := by
  obtain ⟨t, out, before, token, hrun, hout, htoken, hwaits, ht⟩ := h.waits hallowed hk hlength
  obtain ⟨u, out', hrun', hu, hnew⟩ := ht.run_colon hwaits
  refine ⟨u, ⟨out ++ out', ?_, ?_⟩, hu⟩
  · rw [hrun, hrun', List.append_assoc]
  · rw [List.append_assoc, List.map_append, hnew, ← List.append_assoc, ← List.map_append, hout,
      htoken]

end Lexer

end Liveness.Yaml
