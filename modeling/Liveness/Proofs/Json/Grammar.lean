import Liveness.Json.Reader

/-! The grammar of JSON texts, as relations between a text and what it says, and without any
order in which a text would be read. -/

namespace Liveness.Json

/-- Any number of blanks. -/
def Blanks (cs : List Char) : Prop := ∀ c ∈ cs, c ∈ [' ', '\n', '\t', '\r']

/-- A hexadecimal digit, which may be a small or a capital letter. -/
def HexDigit (d : Nat) (c : Char) : Prop :=
  d < 16 ∧ (c = Nat.digitChar d ∨ c = (Nat.digitChar d).toUpper)

instance (d : Nat) : DecidablePred (HexDigit d) := fun c =>
  inferInstanceAs (Decidable (d < 16 ∧ (c = Nat.digitChar d ∨ c = (Nat.digitChar d).toUpper)))

/-- Four hexadecimal digits of a number. -/
inductive HexCode : Nat → List Char → Prop
  | mk {k l m n : Nat} {c₁ c₂ c₃ c₄ : Char} : HexDigit k c₁ → HexDigit l c₂ → HexDigit m c₃ →
      HexDigit n c₄ → HexCode (((16 * k + l) * 16 + m) * 16 + n) [c₁, c₂, c₃, c₄]

/-- The letters that may stand behind a backslash, with the characters that they give there. -/
def letters : List (Char × Char) :=
  [('"', '"'), ('\\', '\\'), ('/', '/'), ('b', '\x08'), ('f', '\x0c'), ('n', '\n'), ('r', '\r'),
    ('t', '\t')]

/-- The ways to write a character within a string. -/
inductive Spelling : Char → List Char → Prop
  | plain {c : Char} : c ≠ '"' → c ≠ '\\' → 0x20 ≤ c.toNat → Spelling c [c]
  | letter {l c : Char} : (l, c) ∈ letters → Spelling c ['\\', l]
  | code {n : Nat} {ds : List Char} : HexCode n ds → n < 0xD800 ∨ 0xE000 ≤ n →
      Spelling (Char.ofNat n) ('\\' :: 'u' :: ds)
  /-- Two halves of a code that has more than four digits. -/
  | pair {high low : Nat} {ds es : List Char} : HexCode high ds → HexCode low es →
      0xD800 ≤ high → high < 0xDC00 → 0xDC00 ≤ low → low < 0xE000 →
      Spelling (Char.ofNat (0x10000 + 0x400 * (high - 0xD800) + (low - 0xDC00)))
        ('\\' :: 'u' :: (ds ++ '\\' :: 'u' :: es))

/-- A text and how it is written between quotes. -/
inductive Spells : List Char → List Char → Prop
  | nil : Spells [] []
  | cons {c : Char} {e s raw : List Char} : Spelling c e → Spells s raw →
      Spells (c :: s) (e ++ raw)

/-- A piece of a string that has the form of a character, and may be half of one. -/
inductive Piece : List Char → Prop
  | plain {c : Char} : c ≠ '"' → c ≠ '\\' → 0x20 ≤ c.toNat → Piece [c]
  | letter {l c : Char} : (l, c) ∈ letters → Piece ['\\', l]
  | code {n : Nat} {ds : List Char} : HexCode n ds → Piece ('\\' :: 'u' :: ds)

/-- What has the form of a string between its quotes. -/
inductive Raw : List Char → Prop
  | nil : Raw []
  | cons {e raw : List Char} : Piece e → Raw raw → Raw (e ++ raw)

theorem raw_append {as bs : List Char} (ha : Raw as) (hb : Raw bs) : Raw (as ++ bs) := by
  induction ha with
  | nil => exact hb
  | cons hp _ ih =>
    rw [List.append_assoc]
    exact .cons hp ih

theorem raw_of_spelling {c : Char} {e : List Char} (h : Spelling c e) : Raw e := by
  have single : ∀ {e : List Char}, Piece e → Raw e := by
    intro e hp
    have hraw := Raw.cons hp .nil
    rwa [List.append_nil] at hraw
  cases h with
  | plain hquote hslash hcontrol => exact single (.plain hquote hslash hcontrol)
  | letter hl => exact single (.letter hl)
  | code hn _ => exact single (.code hn)
  | pair hhigh hlow _ _ _ _ => exact .cons (.code hhigh) (single (.code hlow))

theorem raw_of_spells {s raw : List Char} (h : Spells s raw) : Raw raw := by
  induction h with
  | nil => exact .nil
  | cons hc _ ih => exact raw_append (raw_of_spelling hc) ih

def Digits (ds : List Char) : Prop := ds ≠ [] ∧ ∀ d ∈ ds, d.isDigit = true

/-- Whole digits: a zero stands alone. -/
inductive Whole : List Char → Prop
  | zero : Whole ['0']
  | digits {d : Char} {ds : List Char} : d ≠ '0' → Digits (d :: ds) → Whole (d :: ds)

inductive Fraction : List Char → Prop
  | none : Fraction []
  | some {ds : List Char} : Digits ds → Fraction ('.' :: ds)

inductive Exponent : List Char → Prop
  | none : Exponent []
  | some {e : Char} {sign ds : List Char} : e ∈ ['e', 'E'] → sign ∈ [[], ['+'], ['-']] →
      Digits ds → Exponent (e :: (sign ++ ds))

/-- A number without its sign. -/
inductive Unsigned : List Char → Prop
  | mk {w f e : List Char} : Whole w → Fraction f → Exponent e → Unsigned (w ++ (f ++ e))

/-- Values that are neither lists nor objects. -/
inductive Scalar : List Char → Prop
  | null : Scalar ['n', 'u', 'l', 'l']
  | true : Scalar ['t', 'r', 'u', 'e']
  | false : Scalar ['f', 'a', 'l', 's', 'e']
  | number {n : List Char} : Unsigned n → Scalar n
  | negative {n : List Char} : Unsigned n → Scalar ('-' :: n)
  | string {raw : List Char} : Raw raw → Scalar ('"' :: (raw ++ ['"']))

/-- What a text may be: a value, an item of a list or a member of an object with the blanks
around it, or several of these with commas between them. -/
inductive Phrase where
  | value
  | element (b : Bracket)
  | elements (b : Bracket)

def Bracket.opening : Bracket → Char
  | .list => '['
  | .object => '{'

/-- A text that has the form of a phrase, nested to any depth. -/
inductive Wf : Phrase → List Char → Prop
  | scalar {cs : List Char} : Scalar cs → Wf .value cs
  | empty {b : Bracket} {w : List Char} : Blanks w → Wf .value (b.opening :: (w ++ [b.closing]))
  | filled {b : Bracket} {es : List Char} : Wf (.elements b) es →
      Wf .value (b.opening :: (es ++ [b.closing]))
  | item {v w w' : List Char} : Blanks w → Wf .value v → Blanks w' →
      Wf (.element .list) (w ++ (v ++ w'))
  | member {k v w w₁ w₂ w' : List Char} : Blanks w → Raw k → Blanks w₁ → Blanks w₂ →
      Wf .value v → Blanks w' →
      Wf (.element .object) (w ++ '"' :: (k ++ '"' :: (w₁ ++ ':' :: (w₂ ++ (v ++ w')))))
  | one {b : Bracket} {e : List Char} : Wf (.element b) e → Wf (.elements b) e
  | more {b : Bracket} {e es : List Char} : Wf (.element b) e → Wf (.elements b) es →
      Wf (.elements b) (e ++ ',' :: es)

abbrev IsValue (cs : List Char) : Prop := Wf .value cs

/-- Parts, of which there is at least one, with commas between them. -/
inductive Separated {α : Type} (Part : α → List Char → Prop) : List α → List Char → Prop
  | one {a : α} {e : List Char} : Part a e → Separated Part [a] e
  | more {a : α} {as : List α} {e es : List Char} : Part a e → Separated Part as es →
      Separated Part (a :: as) (e ++ ',' :: es)

/-- A list or an object of such parts, and blanks around it. -/
inductive Bracketed {α : Type} (b : Bracket) (Part : α → List Char → Prop) :
    List α → List Char → Prop
  | empty {w w₁ w₂ : List Char} : Blanks w → Blanks w₁ → Blanks w₂ →
      Bracketed b Part [] (w ++ b.opening :: (w₁ ++ b.closing :: w₂))
  | filled {as : List α} {w es w₂ : List Char} : Blanks w → Separated Part as es → Blanks w₂ →
      Bracketed b Part as (w ++ b.opening :: (es ++ b.closing :: w₂))

/-- An item is told by the text of its value. -/
inductive IsItem : List Char → List Char → Prop
  | mk {v w w' : List Char} : Blanks w → IsValue v → Blanks w' → IsItem v (w ++ (v ++ w'))

/-- A member is told by what its key spells and by the text of its value. -/
inductive IsMember : String × List Char → List Char → Prop
  | mk {key : String} {k v w w₁ w₂ w' : List Char} : Blanks w → Spells key.toList k →
      Blanks w₁ → Blanks w₂ → IsValue v → Blanks w' →
      IsMember (key, v) (w ++ '"' :: (k ++ '"' :: (w₁ ++ ':' :: (w₂ ++ (v ++ w')))))

/-- A text that is a list of items. -/
abbrev IsList : List (List Char) → List Char → Prop := Bracketed .list IsItem

/-- A text that is an object of members, in the order in which they stand. -/
abbrev IsObject : List (String × List Char) → List Char → Prop := Bracketed .object IsMember

/-- A value that is a string, and spells `s`. -/
inductive IsText (s : String) : List Char → Prop
  | mk {raw : List Char} : Spells s.toList raw → IsText s ('"' :: (raw ++ ['"']))

end Liveness.Json
