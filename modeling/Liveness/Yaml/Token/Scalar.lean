import Liveness.Yaml.Cursor
import Liveness.Yaml.Token.Basic

/-! Scalars. Quoted and plain ones fold the lines they span: one line break becomes a
space, and of several the first is dropped. Block scalars keep or fold their lines by
the indicator that opens them. -/

namespace Liveness.Yaml

/-- The blanks and line breaks between two characters of a scalar: none, blanks on one
line, or the text of a first break and of those after it. -/
inductive Gap where
  | none
  | blanks (text : List Char)
  | lines (first more : List Char)
  deriving DecidableEq, Repr

namespace Gap

/-- Blanks next to a line break do not count. -/
def blank (c : Char) : Gap → Gap
  | .none => .blanks [c]
  | .blanks text => .blanks (text ++ [c])
  | .lines first more => .lines first more

def newline (text : List Char) : Gap → Gap
  | .lines first more => .lines first (more ++ text)
  | _ => .lines text []

/-- What a gap contributes to the scalar. -/
def text : Gap → List Char
  | .none => []
  | .blanks text => text
  | .lines first more =>
    if first = ['\n'] then (if more = [] then [' '] else more) else first ++ more

def hasLines : Gap → Bool
  | .lines _ _ => true
  | _ => false

end Gap

/-- The character that a one-letter escape stands for. -/
def letterEscape? (c : Char) : Option Char :=
  match c with
  | '0' => some '\x00'
  | 'a' => some '\x07'
  | 'b' => some '\x08'
  | 't' => some '\t'
  | '\t' => some '\t'
  | 'n' => some '\n'
  | 'v' => some '\x0b'
  | 'f' => some '\x0c'
  | 'r' => some '\r'
  | 'e' => some '\x1b'
  | ' ' => some ' '
  | '"' => some '"'
  | '/' => some '/'
  | '\\' => some '\\'
  | 'N' => some '\u0085'
  | '_' => some '\u00a0'
  | 'L' => some '\u2028'
  | 'P' => some '\u2029'
  | _ => none

/-- How many hexadecimal digits an escape takes. -/
def codeLength? (c : Char) : Option Nat :=
  match c with
  | 'x' => some 2
  | 'u' => some 4
  | 'U' => some 8
  | _ => none

/-- The number that a text of hexadecimal digits denotes. -/
def hexNumber? (cs : List Char) : Option Nat :=
  cs.foldlM (fun n c => (hexValue? c).map (16 * n + ·)) 0

/-- What an escape stands for: a character, after `length` characters behind the
backslash. -/
structure Escape where
  char : Char
  length : Nat

/-- The escape behind a backslash at `mark`. -/
def readEscape (start mark : Mark) (cs : List Char) : Except Error Escape :=
  let fail (p : Problem) (m : Mark) : Except Error Escape :=
    .error (.malformed p m (some (.quotedEscape, start)))
  match cs with
  | [] => fail .unknownEscape mark
  | c :: cs =>
    match letterEscape? c, codeLength? c with
    | some x, _ => .ok ⟨x, 1⟩
    | none, none => fail .unknownEscape mark
    | none, some n =>
      match if n ≤ cs.length then hexNumber? (cs.take n) else none with
      | none => fail .noHexNumber (mark.advance 2)
      | some code =>
        if h : code.isValidChar then .ok ⟨Char.ofNatAux code h, n + 1⟩
        else fail .badCodePoint (mark.advance 2)

/-- Reads the text of a quoted scalar up to and including its closing quote. `start` is
where the scalar began, and `gap` what lies between the last character and `cs`. -/
def readQuoted (single : Bool) (start : Mark) (gap : Gap) (mark : Mark) (cs : List Char) :
    Except Error (List Char × Cursor) :=
  let fail (p : Problem) : Except Error (List Char × Cursor) :=
    .error (.malformed p mark (some (.quotedScalar, start)))
  match cs with
  | [] => fail .endOfStream
  | '\r' :: '\n' :: cs => readQuoted single start (gap.newline ['\n']) (mark.nextLine 2) cs
  | c :: cs =>
    if isBreak c then readQuoted single start (gap.newline (breakText c)) (mark.nextLine 1) cs
    else if isBlank c then readQuoted single start (gap.blank c) (mark.advance 1) cs
    else if mark.column = 0 && startsWithIndicator (c :: cs) then fail .documentIndicator
    else
      let after (text : List Char) (r : Except Error (List Char × Cursor)) :
          Except Error (List Char × Cursor) :=
        r.map fun (s, cursor) => (gap.text ++ text ++ s, cursor)
      if single then
        if c = '\'' then
          match cs with
          | '\'' :: cs => after ['\''] (readQuoted single start .none (mark.advance 2) cs)
          | cs => .ok (gap.text, ⟨cs, mark.advance 1⟩)
        else after [c] (readQuoted single start .none (mark.advance 1) cs)
      else if c = '"' then .ok (gap.text, ⟨cs, mark.advance 1⟩)
      else if c = '\\' then
        match cs with
        | '\r' :: '\n' :: cs =>
          after [] (readQuoted single start (.lines [] []) ((mark.advance 1).nextLine 2) cs)
        | d :: ds =>
          if isBreak d then
            after [] (readQuoted single start (.lines [] []) ((mark.advance 1).nextLine 1) ds)
          else
            match readEscape start mark (d :: ds) with
            | .error e => .error e
            | .ok e =>
              after [e.char]
                (readQuoted single start .none (mark.advance (e.length + 1))
                  ((d :: ds).drop e.length))
        | [] => (readEscape start mark []).bind fun _ => fail .endOfStream
      else after [c] (readQuoted single start .none (mark.advance 1) cs)
termination_by cs.length

theorem readQuoted_left (single : Bool) (start : Mark) (gap : Gap) (mark : Mark)
    (cs : List Char) :
    Ensures (readQuoted single start gap mark cs) (left · < cs.length) := by
  fun_induction readQuoted single start gap mark cs with
  | case1 => exact .error _ _
  | case2 _ _ _ ih => exact ih.mono fun _ h => by simp; omega
  | case3 _ _ _ _ _ _ ih => exact ih.mono fun _ h => Nat.lt_succ_of_lt h
  | case4 _ _ _ _ _ _ _ ih => exact ih.mono fun _ h => Nat.lt_succ_of_lt h
  | case5 => exact .error _ _
  | case6 =>
    rename_i ih
    exact ih.map fun _ h => Nat.lt_succ_of_lt (Nat.lt_succ_of_lt h)
  | case7 => exact .ok (Nat.lt_succ_self _)
  | case8 =>
    rename_i ih
    exact ih.map fun _ h => Nat.lt_succ_of_lt h
  | case9 => exact .ok (Nat.lt_succ_self _)
  | case10 =>
    rename_i ih
    exact ih.map fun _ h => Nat.lt_succ_of_lt (Nat.lt_succ_of_lt (Nat.lt_succ_of_lt h))
  | case11 =>
    rename_i ih
    exact ih.map fun _ h => Nat.lt_succ_of_lt (Nat.lt_succ_of_lt h)
  | case12 => exact .error _ _
  | case13 =>
    rename_i ih
    refine ih.map fun _ h => Nat.lt_succ_of_lt (Nat.lt_of_lt_of_le h ?_)
    simp
  | case14 => exact .error _ _
  | case15 =>
    rename_i ih
    exact ih.map fun _ h => Nat.lt_succ_of_lt h

structure Plain where
  text : List Char
  finish : Mark
  stop : Cursor
  /-- Whether the scalar is followed by the end of its line. -/
  endsLine : Bool

/-- Whether a plain scalar ends in front of a text. -/
def endsPlain (inFlow : Bool) (cs : List Char) : Bool :=
  match cs with
  | [] => true
  | c :: r => (c = ':' && atGap r) || (inFlow && [',', '[', ']', '{', '}'].contains c)

/-- In a flow collection a colon must not be followed by an indicator. -/
def hasStrayColon (inFlow : Bool) (cs : List Char) : Bool :=
  match cs with
  | ':' :: d :: _ => inFlow && [',', '?', '[', ']', '{', '}'].contains d
  | _ => false

/-- Reads a plain scalar. Outside of flow collections its lines have to begin at the column
`floor` or behind it; `finish` is the end of what has been read, and `gap` what lies between
that and `cs`. -/
def readPlain (inFlow : Bool) (floor : Nat) (start : Mark) (gap : Gap) (finish mark : Mark)
    (cs : List Char) : Except Error Plain :=
  let stop : Except Error Plain := .ok ⟨[], finish, ⟨cs, mark⟩, gap.hasLines⟩
  let fail (p : Problem) : Except Error Plain :=
    .error (.malformed p mark (some (.plainScalar, start)))
  match cs with
  | [] => stop
  | '\r' :: '\n' :: cs =>
    readPlain inFlow floor start (gap.newline ['\n']) finish (mark.nextLine 2) cs
  | c :: cs =>
    if isBreak c then
      readPlain inFlow floor start (gap.newline (breakText c)) finish (mark.nextLine 1) cs
    else if isBlank c then
      if gap.hasLines && mark.column < floor && c = '\t' then fail .tabInPlain
      else readPlain inFlow floor start (gap.blank c) finish (mark.advance 1) cs
    else if gap ≠ .none && ((!inFlow && mark.column < floor) || c = '#' ||
        (mark.column = 0 && startsWithIndicator (c :: cs))) then stop
    else if hasStrayColon inFlow (c :: cs) then fail .colonInPlain
    else if endsPlain inFlow (c :: cs) then stop
    else
      (readPlain inFlow floor start .none (mark.advance 1) (mark.advance 1) cs).map fun p =>
        { p with text := gap.text ++ c :: p.text }
termination_by cs.length

theorem readPlain_left (inFlow : Bool) (floor : Nat) (start : Mark) (gap : Gap)
    (finish mark : Mark) (cs : List Char) :
    Ensures (readPlain inFlow floor start gap finish mark cs)
      (·.stop.rest.length ≤ cs.length) := by
  fun_induction readPlain inFlow floor start gap finish mark cs with
  | case1 => exact .ok (Nat.le_refl _)
  | case2 _ _ _ _ ih => exact ih.mono fun _ h => Nat.le_trans h (by simp; omega)
  | case3 _ _ _ _ _ _ _ ih => exact ih.mono fun _ h => Nat.le_succ_of_le h
  | case4 => exact .error _ _
  | case5 _ _ _ _ _ _ _ _ _ ih => exact ih.mono fun _ h => Nat.le_succ_of_le h
  | case6 => exact .ok (Nat.le_refl _)
  | case7 => exact .error _ _
  | case8 => exact .ok (Nat.le_refl _)
  | case9 =>
    rename_i ih
    exact ih.map fun _ h => Nat.le_succ_of_le h

inductive Chomping where
  | strip
  | clip
  | keep
  deriving DecidableEq, Repr

/-- Line breaks and the indentation after them. -/
structure Breaks where
  text : List Char
  /-- The end of the last break. -/
  finish : Mark
  stop : Cursor
  /-- The deepest column that a line of blanks reached. -/
  deepest : Nat

/-- Whether a place is still inside an indentation; zero stands for one not known yet. -/
def inIndentation (indent : Nat) (m : Mark) : Bool := indent = 0 || m.column < indent

/-- Goes past the spaces of an indentation. -/
def skipIndentation (indent : Nat) (c : Cursor) : Cursor :=
  let spaces := (c.rest.takeWhile (· = ' ')).length
  c.advance (if indent = 0 then spaces else min spaces (indent - c.mark.column))

theorem length_skipIndentation (indent : Nat) (c : Cursor) :
    (skipIndentation indent c).rest.length ≤ c.rest.length :=
  Cursor.length_advance c _

/-- Reads line breaks, and the indentation of the lines between and after them. -/
def readBreaks (start : Mark) (indent deepest : Nat) (finish : Mark) (c : Cursor) :
    Except Error Breaks :=
  let here := skipIndentation indent c
  let deepest := max deepest here.mark.column
  match h : here.rest with
  | [] => .ok ⟨[], finish, here, deepest⟩
  | x :: rest =>
    if inIndentation indent here.mark && x = '\t' then
      .error (.malformed .tabInIndentation here.mark (some (.blockScalar, start)))
    else if hb : isBreak x = true then
      have : here.skipBreak.rest.length < c.rest.length :=
        Nat.lt_of_lt_of_le (Cursor.length_skipBreak_lt (by simp [h]) hb)
          (length_skipIndentation indent c)
      (readBreaks start indent deepest here.skipBreak.mark here.skipBreak).map fun b =>
        { b with text := breakText x ++ b.text }
    else .ok ⟨[], finish, here, deepest⟩
termination_by c.rest.length

theorem readBreaks_left (start : Mark) (indent deepest : Nat) (finish : Mark) (c : Cursor) :
    Ensures (readBreaks start indent deepest finish c)
      (·.stop.rest.length ≤ c.rest.length) := by
  fun_induction readBreaks start indent deepest finish c with
  | case1 deepest finish c => exact .ok (length_skipIndentation indent c)
  | case2 => exact .error _ _
  | case3 =>
    rename_i hlt ih
    exact ih.map fun _ h => Nat.le_trans h (Nat.le_of_lt hlt)
  | case4 deepest finish c => exact .ok (length_skipIndentation indent c)

/-- What stands between two lines of a block scalar: the break after the first and the
breaks after that. Folding turns a single break between two lines into a space, and
drops one of several, unless a line begins with a blank. -/
def joinLines (literal afterBlank beforeBlank : Bool) (leading trailing : List Char) :
    List Char :=
  if !literal && leading = ['\n'] && !afterBlank && !beforeBlank then
    if trailing = [] then [' '] else trailing
  else leading ++ trailing

structure Block where
  text : List Char
  /-- The break after the last line, and the breaks after that. -/
  leading : List Char
  trailing : List Char
  finish : Mark
  stop : Cursor

def startsWithBlank (cs : List Char) : Bool := cs.head?.any isBlank

/-- The text from a cursor to the end of its line. -/
def lineHere (c : Cursor) : List Char := c.rest.takeWhile fun x => !isBreak x

theorem length_lineHere {c : Cursor} (h : c.rest ≠ []) :
    (c.advance (lineHere c).length).skipBreak.rest.length < c.rest.length := by
  cases hr : c.rest with
  | nil => exact absurd hr h
  | cons x rest =>
    by_cases hx : isBreak x = true
    · have h0 : lineHere c = [] := by simp [lineHere, hr, hx]
      have := Cursor.length_skipBreak_lt (show (c.advance 0).rest.head? = some x by
        simp [Cursor.advance, hr]) hx
      simpa [h0, Cursor.advance, hr] using this
    · have h1 : 0 < (lineHere c).length := by simp [lineHere, hr, hx]
      have h2 := Cursor.length_skipBreak_le (c.advance (lineHere c).length)
      have h3 : (c.advance (lineHere c).length).rest.length
          = (x :: rest).length - (lineHere c).length := by simp [Cursor.advance, hr]
      have h4 : (x :: rest).length = rest.length + 1 := rfl
      omega

/-- Reads the lines of a block scalar; `afterBlank`, `leading` and `trailing` tell of
what came before. -/
def readLines (literal : Bool) (start : Mark) (indent : Nat) (afterBlank : Bool)
    (leading trailing : List Char) (finish : Mark) (c : Cursor) : Except Error Block :=
  if _h : c.mark.column = indent ∧ c.rest ≠ [] then
    let blank := startsWithBlank c.rest
    let line := lineHere c
    let eol := c.advance line.length
    match _hb : readBreaks start indent 0 eol.skipBreak.mark eol.skipBreak with
    | .error e => .error e
    | .ok b =>
      (readLines literal start indent blank eol.breakHere b.text b.finish b.stop).map fun r =>
        { r with
          text := joinLines literal afterBlank blank leading trailing ++ line ++ r.text }
  else .ok ⟨[], leading, trailing, finish, c⟩
termination_by c.rest.length
decreasing_by exact Nat.lt_of_le_of_lt (readBreaks_left _ _ _ _ _ _ _hb) (length_lineHere _h.2)

theorem readLines_left (literal : Bool) (start : Mark) (indent : Nat) (afterBlank : Bool)
    (leading trailing : List Char) (finish : Mark) (c : Cursor) :
    Ensures (readLines literal start indent afterBlank leading trailing finish c)
      (·.stop.rest.length ≤ c.rest.length) := by
  fun_induction readLines literal start indent afterBlank leading trailing finish c with
  | case1 => exact .error _ _
  | case2 afterBlank leading trailing finish c hc _ line eol b hb ih =>
    exact ih.map fun _ h => Nat.le_trans h (Nat.le_trans (readBreaks_left _ _ _ _ _ _ hb)
      (Nat.le_of_lt (length_lineHere hc.2)))
  | case3 => exact .ok (Nat.le_refl _)

/-- The indicators behind `|` or `>`: a digit for the indentation and a sign for the
breaks at the end, in either order. -/
structure Header where
  chomping : Chomping
  increment : Nat
  stop : Cursor

def chomping? (c : Char) : Option Chomping :=
  if c = '+' then some .keep else if c = '-' then some .strip else none

/-- A digit for the indentation, if one stands here; zero is refused. -/
def readIncrement (start : Mark) (c : Cursor) : Except Error (Nat × Cursor) :=
  match c.rest with
  | x :: _ =>
    if x = '0' then c.fail .zeroIndentation .blockScalar start
    else if x.isDigit then .ok (x.toNat - 0x30, c.advance 1)
    else .ok (0, c)
  | [] => .ok (0, c)

def readChomping (c : Cursor) : Option Chomping × Cursor :=
  match c.rest.head?.bind chomping? with
  | some k => (some k, c.advance 1)
  | none => (none, c)

def readHeader (start : Mark) (c : Cursor) : Except Error Header :=
  match readChomping c with
  | (some k, c) => (readIncrement start c).map fun (n, c) => ⟨k, n, c⟩
  | (none, c) =>
    (readIncrement start c).map fun (n, c) =>
      if n = 0 then ⟨.clip, 0, c⟩
      else ⟨(readChomping c).1.getD .clip, n, (readChomping c).2⟩

theorem readIncrement_left (start : Mark) (c : Cursor) :
    Ensures (readIncrement start c) (left · ≤ c.rest.length) := by
  unfold readIncrement
  split
  · split
    · exact .error _ _
    · split
      · exact .ok (c.length_advance 1)
      · exact .ok (Nat.le_refl _)
  · exact .ok (Nat.le_refl _)

theorem length_readChomping (c : Cursor) : (readChomping c).2.rest.length ≤ c.rest.length := by
  unfold readChomping
  split
  · exact c.length_advance 1
  · exact Nat.le_refl _

theorem readHeader_left (start : Mark) (c : Cursor) :
    Ensures (readHeader start c) (·.stop.rest.length ≤ c.rest.length) := by
  unfold readHeader
  have hc := length_readChomping c
  split
  · next h =>
    rw [h] at hc
    exact (readIncrement_left start _).map fun _ h => Nat.le_trans h hc
  · next d h =>
    rw [h] at hc
    refine (readIncrement_left start _).map fun p hp => ?_
    have hd := Nat.le_trans hp hc
    by_cases hn : p.1 = 0
    · simpa [hn, left] using hd
    · simpa [hn, left] using Nat.le_trans (length_readChomping _) hd

/-- The text of a block scalar: what its line breaks at the end become is up to the
header. -/
def Block.chomped (b : Block) : Chomping → List Char
  | .strip => b.text
  | .clip => b.text ++ b.leading
  | .keep => b.text ++ b.leading ++ b.trailing

/-- The indentation of a block scalar whose first lines are all blank so far; `floor` is
the least that the place allows. -/
def detectIndent (floor : Nat) (b : Breaks) : Nat := max (max b.deepest floor) 1

/-- A block scalar, behind its indicator. What stands around it is indented by less than
`floor`. -/
def readBlock (literal : Bool) (floor : Nat) (start : Mark) (c : Cursor) :
    Except Error (Token × Cursor) :=
  (readHeader start c).bind fun header =>
  (endLine .blockScalar start header.stop).bind fun body =>
  let given := if header.increment = 0 then 0 else floor - 1 + header.increment
  (readBreaks start given 0 body.mark body).bind fun first =>
  let indent := if given = 0 then detectIndent floor first else given
  (readLines literal start indent false [] first.text first.finish first.stop).map fun block =>
    (⟨.scalar (block.chomped header.chomping) (if literal then .literal else .folded), start,
      block.finish⟩, block.stop)

theorem readBlock_left (literal : Bool) (floor : Nat) (start : Mark) (c : Cursor) :
    Ensures (readBlock literal floor start c) (left · ≤ c.rest.length) :=
  (readHeader_left start c).bind fun header hh =>
  (endLine_left _ start header.stop).bind fun _ hb =>
  (readBreaks_left start _ 0 _ _).bind fun _ hf =>
  (readLines_left literal start _ false [] _ _ _).map fun _ hl =>
    Nat.le_trans hl (Nat.le_trans hf (Nat.le_trans hb hh))

end Liveness.Yaml
