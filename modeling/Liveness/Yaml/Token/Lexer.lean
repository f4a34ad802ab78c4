import Liveness.Yaml.Token.Scalar
import Liveness.Yaml.Token.Tag

/-! Tokens in order. Whether a token is the key of a mapping shows only when a colon
follows on its line, so the tokens from a possible key on wait until that is known. -/

namespace Liveness.Yaml

/-- A token that is a key if a colon follows. -/
structure SimpleKey where
  /-- Whether nothing but a key can stand here. -/
  required : Bool
  /-- How many tokens come before it. -/
  number : Nat
  mark : Mark
  deriving DecidableEq, Repr

/-- A key stands on one line, and not far before its colon. -/
def SimpleKey.isStale (k : SimpleKey) (m : Mark) : Bool :=
  k.mark.line < m.line || k.mark.index + 1024 < m.index

structure Lexer where
  cursor : Cursor
  /-- The possible key of the innermost collection, and of those around it up to the
  block that holds the flow collections. -/
  key : Option SimpleKey
  outer : List (Option SimpleKey)
  /-- The columns of the open block collections, the innermost first. -/
  indents : List Nat
  keyAllowed : Bool
  /-- Tokens that wait, and how many do no longer. -/
  pending : List Token
  released : Nat

namespace Lexer

def start (c : Cursor) : Lexer := ⟨c, none, [], [], true, [], 0⟩

def inFlow (s : Lexer) : Bool := !s.outer.isEmpty

/-- The first column that is inside the innermost block collection. -/
def floor (s : Lexer) : Nat :=
  match s.indents with
  | [] => 0
  | n :: _ => n + 1

/-- The number of the next token. -/
def number (s : Lexer) : Nat := s.released + s.pending.length

def insert (s : Lexer) (number : Nat) (t : Token) : Lexer :=
  { s with pending := s.pending.insertIdx (number - s.released) t }

/-- Adds a token that ends at `next`. -/
def take (s : Lexer) (t : Token) (next : Cursor) (keyAllowed : Bool) : Lexer :=
  { s with pending := s.pending ++ [t], cursor := next, keyAllowed }

def keyError (k : SimpleKey) (m : Mark) : Error :=
  .malformed .noSimpleKeyColon m (some (.simpleKey, k.mark))

/-- Gives up the possible key of the innermost collection. -/
def dropKey (s : Lexer) : Except Error Lexer :=
  match s.key with
  | some k =>
    if k.required then .error (keyError k s.cursor.mark) else .ok { s with key := none }
  | none => .ok s

/-- Makes the next token a possible key where one is allowed. -/
def saveKey (s : Lexer) : Except Error Lexer :=
  if s.keyAllowed then
    let required := !s.inFlow && s.indents.head? = some s.cursor.mark.column
    s.dropKey.map fun s => { s with key := some ⟨required, s.number, s.cursor.mark⟩ }
  else .ok s

/-- The required key that is stale, if there is one. -/
def staleKey? (s : Lexer) : Option SimpleKey :=
  (s.key :: s.outer).findSome? fun k => k.filter fun k => k.required && k.isStale s.cursor.mark

def fresh (m : Mark) (k : Option SimpleKey) : Option SimpleKey := k.filter fun k => !k.isStale m

/-- Gives up the keys that are stale. -/
def expire (s : Lexer) : Except Error Lexer :=
  match s.staleKey? with
  | some k => .error (keyError k s.cursor.mark)
  | none =>
    .ok { s with key := fresh s.cursor.mark s.key, outer := s.outer.map (fresh s.cursor.mark) }

/-- Opens a block collection at a deeper column; its first token has the given number. -/
def openBlock (s : Lexer) (column number : Nat) (symbol : Symbol) (m : Mark) : Lexer :=
  if !s.inFlow && s.floor ≤ column then
    { s.insert number ⟨symbol, m, m⟩ with indents := column :: s.indents }
  else s

/-- Closes the block collections whose column satisfies `p`. -/
def closeBlocks (s : Lexer) (p : Nat → Bool) : Lexer :=
  if s.inFlow then s
  else
    let closed := s.indents.takeWhile p
    let blockEnd : Token := ⟨.blockEnd, s.cursor.mark, s.cursor.mark⟩
    { s with
      indents := s.indents.drop closed.length
      pending := s.pending ++ closed.map fun _ => blockEnd }

/-- Opens a block collection where an indicator stands, if it is allowed there. -/
def openAtIndicator (s : Lexer) (symbol : Symbol) (refusal : Problem) : Except Error Lexer :=
  if s.inFlow then .ok s
  else if s.keyAllowed then
    .ok (s.openBlock s.cursor.mark.column s.number symbol s.cursor.mark)
  else .error (.malformed refusal s.cursor.mark none)

/-- Goes to the next token. A new line of a block may begin with a key, and there tabs
do not indent. -/
def skipGaps (inFlow keyAllowed : Bool) (c : Cursor) : Bool × Cursor :=
  let d := (c.skipWhile fun x => x = ' ' || ((inFlow || !keyAllowed) && x = '\t')).skipComment
  if _h : d.rest.head?.any isBreak then skipGaps inFlow (keyAllowed || !inFlow) d.skipBreak
  else (keyAllowed, d)
termination_by c.rest.length
decreasing_by
  have hd : d.rest.length ≤ c.rest.length :=
    Nat.le_trans (Cursor.length_skipComment _) (c.length_advance _)
  match hx : d.rest.head? with
  | none => simp [d, hx] at _h
  | some x => exact Nat.lt_of_lt_of_le (Cursor.length_skipBreak_lt hx (by simpa [hx] using _h)) hd

theorem length_skipGaps (inFlow keyAllowed : Bool) (c : Cursor) :
    (skipGaps inFlow keyAllowed c).2.rest.length ≤ c.rest.length := by
  fun_induction skipGaps inFlow keyAllowed c with
  | case1 _ c d _ ih =>
    exact Nat.le_trans ih (Nat.le_trans (Cursor.length_skipBreak_le _)
      (Nat.le_trans (Cursor.length_skipComment _) (c.length_advance _)))
  | case2 _ c d _ => exact Nat.le_trans (Cursor.length_skipComment _) (c.length_advance _)

/-- Goes to the next token, and ends what ends before it. -/
def approach (s : Lexer) : Except Error Lexer :=
  let (keyAllowed, cursor) := skipGaps s.inFlow s.keyAllowed s.cursor
  (expire { s with cursor, keyAllowed }).map fun s => s.closeBlocks (cursor.mark.column < ·)

/-- What the next token is. -/
inductive Lead where
  | directive
  | documentMark (symbol : Symbol)
  | flowStart (symbol : Symbol)
  | flowEnd (symbol : Symbol)
  | flowEntry
  | blockEntry
  | key
  | value
  | alias
  | anchor
  | tag
  | block (literal : Bool)
  | quoted (single : Bool)
  | plain
  | none

/-- A token that begins with `x`, at a column and before `rest`. Behind a question mark or
a colon a gap is needed outside of flow collections. -/
def lead (inFlow : Bool) (column : Nat) (x : Char) (rest : List Char) : Lead :=
  let stands := inFlow || atGap rest
  if column = 0 && x = '%' then .directive
  else if column = 0 && startsWithThree '-' (x :: rest) then .documentMark .documentStart
  else if column = 0 && startsWithThree '.' (x :: rest) then .documentMark .documentEnd
  else if x = '[' then .flowStart .flowSequenceStart
  else if x = '{' then .flowStart .flowMappingStart
  else if x = ']' then .flowEnd .flowSequenceEnd
  else if x = '}' then .flowEnd .flowMappingEnd
  else if x = ',' then .flowEntry
  else if x = '-' && atGap rest then .blockEntry
  else if x = '?' && stands then .key
  else if x = ':' && stands then .value
  else if x = '*' then .alias
  else if x = '&' then .anchor
  else if x = '!' then .tag
  else if x = '|' && !inFlow then .block true
  else if x = '>' && !inFlow then .block false
  else if x = '\'' then .quoted true
  else if x = '"' then .quoted false
  else if isBlank x || isBreak x || ['#', '|', '>', '%', '@', '`'].contains x then .none
  else .plain

/-- A token of one character. -/
def indicator (s : Lexer) (symbol : Symbol) (keyAllowed : Bool) : Lexer :=
  let next := s.cursor.advance 1
  s.take ⟨symbol, s.cursor.mark, next.mark⟩ next keyAllowed

/-- A colon. What waits as a possible key is one now. -/
def value (s : Lexer) : Except Error Lexer :=
  match s.key with
  | some k =>
    let s := (s.insert k.number ⟨.key, k.mark, k.mark⟩).openBlock k.mark.column k.number
      .blockMappingStart k.mark
    .ok ({ s with key := none }.indicator .value false)
  | none =>
    (s.openAtIndicator .blockMappingStart .valueNotAllowed).map fun s =>
    s.indicator .value (!s.inFlow)

/-- The token that stands at the cursor. -/
def fetch (s : Lexer) : Except Error Lexer :=
  match s.cursor.rest with
  | [] => .ok s
  | x :: rest =>
    let m := s.cursor.mark
    let next := s.cursor.advance 1
    match lead s.inFlow m.column x rest with
    | .directive =>
      (s.closeBlocks fun _ => true).dropKey.bind fun s =>
      (readDirective m next).map fun (t, c) => s.take t c false
    | .documentMark symbol =>
      (s.closeBlocks fun _ => true).dropKey.map fun s =>
      let c := s.cursor.advance 3
      s.take ⟨symbol, m, c.mark⟩ c false
    | .flowStart symbol =>
      s.saveKey.map fun s =>
      { s with key := none, outer := s.key :: s.outer }.indicator symbol true
    | .flowEnd symbol =>
      s.dropKey.map fun s =>
      let s := match s.outer with
        | [] => s
        | k :: outer => { s with key := k, outer }
      s.indicator symbol false
    | .flowEntry => s.dropKey.map fun s => s.indicator .flowEntry true
    | .blockEntry =>
      (s.openAtIndicator .blockSequenceStart .blockEntryNotAllowed).bind fun s =>
      s.dropKey.map fun s => s.indicator .blockEntry true
    | .key =>
      (s.openAtIndicator .blockMappingStart .keyNotAllowed).bind fun s =>
      s.dropKey.map fun s => s.indicator .key (!s.inFlow)
    | .value => s.value
    | .alias =>
      s.saveKey.bind fun s =>
      (readAnchor .alias m next).map fun (name, c) => s.take ⟨.alias name, m, c.mark⟩ c false
    | .anchor =>
      s.saveKey.bind fun s =>
      (readAnchor .anchor m next).map fun (name, c) => s.take ⟨.anchor name, m, c.mark⟩ c false
    | .tag =>
      s.saveKey.bind fun s =>
      (readTag s.inFlow m next).map fun (t, c) => s.take t c false
    | .block literal =>
      s.dropKey.bind fun s =>
      (readBlock literal s.floor m next).map fun (t, c) => s.take t c true
    | .quoted single =>
      s.saveKey.bind fun s =>
      (readQuoted single m .none next.mark next.rest).map fun (text, c) =>
      s.take ⟨.scalar text (if single then .single else .double), m, c.mark⟩ c false
    | .plain =>
      s.saveKey.bind fun s =>
      (readPlain s.inFlow s.floor m .none next.mark next.mark next.rest).map fun p =>
      s.take ⟨.scalar (x :: p.text) .plain, m, p.finish⟩ p.stop p.endsLine
    | .none => .error (.malformed .noTokenStart m (some (.nextToken, m)))

/-- The end of the text, which ends its last line. -/
def finish (s : Lexer) : Except Error Lexer :=
  let m := s.cursor.mark
  let m : Mark := if m.column = 0 then m else ⟨m.index, m.line + 1, 0⟩
  let s := { s with cursor := ⟨[], m⟩ }.closeBlocks fun _ => true
  s.dropKey.bind fun s => (s.take ⟨.streamEnd, m, m⟩ ⟨[], m⟩ false).expire

/-- How many of the waiting tokens come before the first possible key. -/
def ready (s : Lexer) : Nat :=
  (s.key :: s.outer).foldl (fun n k => match k with
    | some k => min n (k.number - s.released)
    | none => n) s.pending.length

def release (s : Lexer) : List Token × Lexer :=
  (s.pending.take s.ready,
   { s with pending := s.pending.drop s.ready, released := s.released + s.ready })

theorem dropKey_cursor (s : Lexer) : Ensures s.dropKey (·.cursor = s.cursor) := by
  unfold dropKey
  split
  · split
    · exact .error _ _
    · exact .ok rfl
  · exact .ok rfl

theorem saveKey_cursor (s : Lexer) : Ensures s.saveKey (·.cursor = s.cursor) := by
  unfold saveKey
  split
  · exact s.dropKey_cursor.map fun _ h => h
  · exact .ok rfl

theorem expire_cursor (s : Lexer) : Ensures s.expire (·.cursor = s.cursor) := by
  unfold expire
  split
  · exact .error _ _
  · exact .ok rfl

theorem closeBlocks_cursor (s : Lexer) (p : Nat → Bool) :
    (s.closeBlocks p).cursor = s.cursor := by
  unfold closeBlocks
  split <;> rfl

theorem openBlock_cursor (s : Lexer) (column number : Nat) (symbol : Symbol) (m : Mark) :
    (s.openBlock column number symbol m).cursor = s.cursor := by
  unfold openBlock
  split <;> rfl

theorem openAtIndicator_cursor (s : Lexer) (symbol : Symbol) (refusal : Problem) :
    Ensures (s.openAtIndicator symbol refusal) (·.cursor = s.cursor) := by
  unfold openAtIndicator
  split
  · exact .ok rfl
  · split
    · exact .ok (s.openBlock_cursor _ _ _ _)
    · exact .error _ _

theorem approach_left (s : Lexer) :
    Ensures s.approach (·.cursor.rest.length ≤ s.cursor.rest.length) := by
  unfold approach
  dsimp only
  refine (expire_cursor _).map fun t h => ?_
  rw [closeBlocks_cursor, h]
  exact length_skipGaps _ _ _

/-- Whether fewer characters are left than a text with a first character has. -/
def Consumes (s : Lexer) (t : Lexer) : Prop := t.cursor.rest.length < s.cursor.rest.length

theorem consumes_indicator {s t : Lexer} {x : Char} {rest : List Char}
    (hs : s.cursor.rest = x :: rest) (ht : t.cursor = s.cursor) (symbol : Symbol)
    (keyAllowed : Bool) : s.Consumes (t.indicator symbol keyAllowed) := by
  simp [Consumes, indicator, take, ht, Cursor.advance, hs]

theorem value_consumes {s : Lexer} {x : Char} {rest : List Char}
    (hs : s.cursor.rest = x :: rest) : Ensures s.value s.Consumes := by
  unfold value
  split
  · refine .ok (consumes_indicator hs ?_ _ _)
    exact openBlock_cursor (insert s _ _) _ _ _ _
  · exact (s.openAtIndicator_cursor _ _).map fun _ h => consumes_indicator hs h _ _

theorem fetch_consumes {s : Lexer} {x : Char} {rest : List Char}
    (hs : s.cursor.rest = x :: rest) : Ensures s.fetch s.Consumes := by
  have hn : (s.cursor.advance 1).rest.length < s.cursor.rest.length := by
    simp [Cursor.advance, hs]
  unfold fetch
  rw [hs]
  dsimp only
  split
  · exact (dropKey_cursor _).bind fun _ _ =>
      (readDirective_left _ _).map fun _ h => Nat.lt_of_le_of_lt h hn
  · refine (dropKey_cursor _).map fun t h => ?_
    simp only [Consumes, take, h, closeBlocks_cursor, Cursor.advance, hs, List.length_drop,
      List.length_cons]
    omega
  · refine s.saveKey_cursor.map fun _ h => consumes_indicator hs ?_ _ _
    exact h
  · refine s.dropKey_cursor.map fun _ h => consumes_indicator hs ?_ _ _
    split <;> exact h
  · exact s.dropKey_cursor.map fun _ h => consumes_indicator hs h _ _
  · exact (s.openAtIndicator_cursor _ _).bind fun t ht =>
      t.dropKey_cursor.map fun _ h => consumes_indicator hs (h.trans ht) _ _
  · exact (s.openAtIndicator_cursor _ _).bind fun t ht =>
      t.dropKey_cursor.map fun _ h => consumes_indicator hs (h.trans ht) _ _
  · exact value_consumes hs
  · exact s.saveKey_cursor.bind fun _ _ =>
      (readAnchor_left _ _ _).map fun _ h => Nat.lt_of_le_of_lt h hn
  · exact s.saveKey_cursor.bind fun _ _ =>
      (readAnchor_left _ _ _).map fun _ h => Nat.lt_of_le_of_lt h hn
  · exact s.saveKey_cursor.bind fun _ _ =>
      (readTag_left _ _ _).map fun _ h => Nat.lt_of_le_of_lt h hn
  · exact s.dropKey_cursor.bind fun _ _ =>
      (readBlock_left _ _ _ _).map fun _ h => Nat.lt_of_le_of_lt h hn
  · exact s.saveKey_cursor.bind fun _ _ =>
      (readQuoted_left _ _ _ _ _).map fun _ h => Nat.lt_trans h hn
  · exact s.saveKey_cursor.bind fun _ _ =>
      (readPlain_left _ _ _ _ _ _ _).map fun _ h => Nat.lt_of_le_of_lt h hn
  · exact .error _ _

/-- The tokens up to the end of the text, or up to an error. Tokens that wait when an
error comes up are lost. -/
def run (s : Lexer) : List Token × Option Error :=
  match ha : s.approach with
  | .error e => ([], some e)
  | .ok a =>
    match hr : a.cursor.rest with
    | [] =>
      match a.finish with
      | .error e => ([], some e)
      | .ok a => (a.pending, none)
    | _ :: _ =>
      match hf : a.fetch.bind expire with
      | .error e => ([], some e)
      | .ok b =>
        have : b.cursor.rest.length < s.cursor.rest.length :=
          Nat.lt_of_lt_of_le
            (((fetch_consumes hr).bind fun c h => (c.expire_cursor).mono fun d hd =>
              (show d.cursor.rest.length < _ by rw [hd]; exact h)) b hf)
            (s.approach_left a ha)
        let later := b.release.2.run
        (b.release.1 ++ later.1, later.2)
termination_by s.cursor.rest.length

end Lexer

/-- The tokens of a text up to its end or an error. -/
def tokens (s : String) : List Token × Option Error :=
  match Cursor.ofText s with
  | .error e => ([], some e)
  | .ok c => (Lexer.start c).run

end Liveness.Yaml
