import Liveness.Yaml.Error

/-! The characters of a YAML text, and a place in it together with the text from there
on. -/

namespace Liveness.Yaml

def isBreak (c : Char) : Bool :=
  c = '\n' || c = '\r' || c = '\u0085' || c = '\u2028' || c = '\u2029'

def isBlank (c : Char) : Bool := c = ' ' || c = '\t'

/-- The characters of names. -/
def isNameChar (c : Char) : Bool := c.isAlphanum || c = '_' || c = '-'

def hexValue? (c : Char) : Option Nat :=
  if c.isDigit then some (c.toNat - 0x30)
  else if 'a' ≤ c && c ≤ 'f' then some (c.toNat - 0x61 + 10)
  else if 'A' ≤ c && c ≤ 'F' then some (c.toNat - 0x41 + 10)
  else none

/-- Whether a text begins with a blank or a line break, or is at its end. -/
def atGap (cs : List Char) : Bool :=
  match cs with
  | [] => true
  | c :: _ => isBlank c || isBreak c

def atBreakOrEnd (cs : List Char) : Bool :=
  match cs with
  | [] => true
  | c :: _ => isBreak c

/-- Whether a text begins with three equal characters that stand alone. -/
def startsWithThree (x : Char) (cs : List Char) : Bool :=
  match cs with
  | a :: b :: c :: rest => a = x && b = x && c = x && atGap rest
  | _ => false

/-- Whether a line begins with the mark of the start or the end of a document. -/
def startsWithIndicator (cs : List Char) : Bool :=
  startsWithThree '-' cs || startsWithThree '.' cs

/-- The text of a line break: all but the two separators of Unicode become a newline. -/
def breakText (c : Char) : List Char :=
  if c = '\u2028' || c = '\u2029' then [c] else ['\n']

def Mark.advance (m : Mark) (n : Nat) : Mark := ⟨m.index + n, m.line, m.column + n⟩

/-- The start of the next line, behind a break of `n` characters. -/
def Mark.nextLine (m : Mark) (n : Nat) : Mark := ⟨m.index + n, m.line + 1, 0⟩

structure Cursor where
  rest : List Char
  mark : Mark
  deriving DecidableEq, Repr

namespace Cursor

/-- Goes past `n` characters of a line. -/
def advance (c : Cursor) (n : Nat) : Cursor := ⟨c.rest.drop n, c.mark.advance n⟩

/-- Goes past the characters that satisfy `p`; none of them is a line break. -/
def skipWhile (p : Char → Bool) (c : Cursor) : Cursor := c.advance (c.rest.takeWhile p).length

def skipBlanks (c : Cursor) : Cursor := c.skipWhile isBlank

/-- Goes past a comment, if one begins here. -/
def skipComment (c : Cursor) : Cursor :=
  if c.rest.head? = some '#' then c.skipWhile (fun x => !isBreak x) else c

/-- Goes past a line break, if one begins here; carriage return and line feed are one. -/
def skipBreak (c : Cursor) : Cursor :=
  match c.rest with
  | '\r' :: '\n' :: rest => ⟨rest, c.mark.nextLine 2⟩
  | x :: rest => if isBreak x then ⟨rest, c.mark.nextLine 1⟩ else c
  | [] => c

/-- The text of the line break at which a cursor stands. -/
def breakHere (c : Cursor) : List Char :=
  match c.rest with
  | x :: _ => if isBreak x then breakText x else []
  | [] => []

theorem length_advance (c : Cursor) (n : Nat) : (c.advance n).rest.length ≤ c.rest.length := by
  simp [advance]

theorem length_skipBreak_le (c : Cursor) : c.skipBreak.rest.length ≤ c.rest.length := by
  unfold skipBreak
  split
  · next h => simp [h]; omega
  · next h => split <;> simp [h]
  · next h => simp

theorem length_skipBreak_lt {c : Cursor} {x : Char} (hx : c.rest.head? = some x)
    (hb : isBreak x = true) : c.skipBreak.rest.length < c.rest.length := by
  unfold skipBreak
  split
  · next h => simp only [h, List.length_cons]; omega
  · next y rest _ h =>
    have : y = x := by simpa [h] using hx
    subst this
    simp [hb, h]
  · next h => simp [h] at hx

theorem length_skipComment (c : Cursor) : c.skipComment.rest.length ≤ c.rest.length := by
  unfold skipComment
  split
  · exact length_advance c _
  · exact Nat.le_refl _

end Cursor

/-- Characters that a text may hold. -/
def isAllowed (c : Char) : Bool :=
  let n := c.toNat
  n = 0x09 || n = 0x0A || n = 0x0D || (0x20 ≤ n && n ≤ 0x7E) || n = 0x85 ||
    (0xA0 ≤ n && n ≤ 0xD7FF) || (0xE000 ≤ n && n ≤ 0xFFFD) || (0x10000 ≤ n && n ≤ 0x10FFFF)

/-- The number of bytes before the first character that is not allowed. -/
def firstRefused (offset : Nat) : List Char → Option Nat
  | [] => none
  | c :: cs => if isAllowed c then firstRefused (offset + c.utf8Size) cs else some offset

/-- The start of a text. A byte order mark there takes a column but is no token. -/
def Cursor.ofText (s : String) : Except Error Cursor :=
  match firstRefused 0 s.toList with
  | some n => .error (.controlCharacter n)
  | none =>
    match s.toList with
    | '\ufeff' :: cs => .ok ⟨cs, Mark.start.advance 1⟩
    | cs => .ok ⟨cs, .start⟩

/-- Whatever a reader returns has a property. -/
def Ensures {ε α : Type} (r : Except ε α) (p : α → Prop) : Prop := ∀ a, r = .ok a → p a

namespace Ensures

variable {ε α β : Type}

theorem error (e : ε) (p : α → Prop) : Ensures (.error e : Except ε α) p := by
  intro a h
  simp at h

theorem ok {a : α} {p : α → Prop} (h : p a) : Ensures (.ok a : Except ε α) p := by
  intro b hb
  injection hb with hb
  exact hb ▸ h

theorem bind {r : Except ε α} {k : α → Except ε β} {p : α → Prop} {q : β → Prop}
    (hr : Ensures r p) (hk : ∀ a, p a → Ensures (k a) q) : Ensures (r.bind k) q := by
  cases r with
  | error e => exact error e q
  | ok a => exact hk a (hr a rfl)

theorem map {r : Except ε α} {f : α → β} {p : α → Prop} {q : β → Prop}
    (hr : Ensures r p) (hf : ∀ a, p a → q (f a)) : Ensures (r.map f) q := by
  cases r with
  | error e => exact error e q
  | ok a => exact ok (hf a (hr a rfl))

theorem mono {r : Except ε α} {p q : α → Prop} (hr : Ensures r p) (h : ∀ a, p a → q a) :
    Ensures r q :=
  fun a ha => h a (hr a ha)

end Ensures

/-- The number of characters that a reader has left over. -/
def left {α : Type} (p : α × Cursor) : Nat := p.2.rest.length

/-- An error at a cursor, in something that began at `start`. -/
def Cursor.fail {α : Type} (c : Cursor) (p : Problem) (context : Context) (start : Mark) :
    Except Error α :=
  .error (.malformed p c.mark (some (context, start)))

/-- Goes to the next line, past blanks and a comment, or reports anything else. -/
def endLine (context : Context) (start : Mark) (c : Cursor) : Except Error Cursor :=
  let c := c.skipBlanks.skipComment
  if atBreakOrEnd c.rest then .ok c.skipBreak
  else c.fail .noCommentOrBreak context start

theorem endLine_left (context : Context) (start : Mark) (c : Cursor) :
    Ensures (endLine context start c) (·.rest.length ≤ c.rest.length) := by
  unfold endLine
  dsimp only
  split
  · exact .ok (Nat.le_trans (Cursor.length_skipBreak_le _)
      (Nat.le_trans (Cursor.length_skipComment _) (Cursor.length_advance c _)))
  · exact .error _ _

end Liveness.Yaml
