import Liveness.Json.Number

/-! Reading the tokens of a JSON text, and passing over whole values. Every reader takes
the text that is left and returns what is left after it. -/

namespace Liveness.Json

def isBlank (c : Char) : Bool := c = ' ' || c = '\n' || c = '\t' || c = '\r'

def skipBlanks (cs : List Char) : List Char := cs.dropWhile isBlank

theorem length_skipBlanks (cs : List Char) : (skipBlanks cs).length ≤ cs.length :=
  length_dropWhile_le cs

/-- The rest of a word of which the first letter was seen. -/
def readWord : List Char → List Char → Except Error (List Char)
  | [], cs => .ok cs
  | _ :: _, [] => .error (.before .eofInValue [])
  | e :: es, c :: cs =>
    if c = e then readWord es cs else .error (.on .expectedIdent (c :: cs))

theorem length_readWord {word cs rest : List Char} (h : readWord word cs = .ok rest) :
    rest.length ≤ cs.length := by
  induction word generalizing cs with
  | nil => simp [readWord] at h; simp [h]
  | cons e es ih =>
    cases cs with
    | nil => simp [readWord] at h
    | cons c cs =>
      rw [readWord] at h
      split at h
      · have := ih h
        simp
        omega
      · simp at h

def hexValue? (c : Char) : Option Nat :=
  if c.isDigit then some (c.toNat - 0x30)
  else if 'a' ≤ c && c ≤ 'f' then some (c.toNat - 0x61 + 10)
  else if 'A' ≤ c && c ≤ 'F' then some (c.toNat - 0x41 + 10)
  else none

def hexNumber? (a b c d : Char) : Option Nat :=
  match hexValue? a, hexValue? b, hexValue? c, hexValue? d with
  | some a, some b, some c, some d => some (((16 * a + b) * 16 + c) * 16 + d)
  | _, _, _, _ => none

/-- Four bytes that are no hexadecimal digits. -/
def badHex (cs : List Char) : Error :=
  if byteCount cs < 4 then ⟨.eofInString, 0⟩ else ⟨.invalidEscape, byteCount cs - 4⟩

/-- Four hexadecimal digits. -/
def readHex (cs : List Char) : Except Error (Nat × List Char) :=
  match cs with
  | a :: b :: c :: d :: rest =>
    match hexNumber? a b c d with
    | some n => .ok (n, rest)
    | none => .error (badHex cs)
  | _ => .error (badHex cs)

theorem length_readHex {cs rest : List Char} {n : Nat} (h : readHex cs = .ok (n, rest)) :
    rest.length < cs.length := by
  unfold readHex at h
  split at h
  · split at h
    · injection h with h
      injection h with _ h
      subst h
      simp
      omega
    · simp at h
  · simp at h

def isHighSurrogate (n : Nat) : Bool := 0xD800 ≤ n && n ≤ 0xDBFF

def isLowSurrogate (n : Nat) : Bool := 0xDC00 ≤ n && n ≤ 0xDFFF

/-- The second half of a character whose first half is the surrogate `high`. -/
def readLowHalf (high : Nat) (cs : List Char) : Except Error (Char × List Char) :=
  match cs with
  | [] => .error (.before .eofInString [])
  | ['\\'] => .error (.before .eofInString [])
  | '\\' :: 'u' :: cs =>
    match readHex cs with
    | .error e => .error e
    | .ok (low, rest) =>
      if isLowSurrogate low then
        .ok (Char.ofNat (0x10000 + 0x400 * (high - 0xD800) + (low - 0xDC00)), rest)
      else .error (.before .loneSurrogate rest)
  | '\\' :: cs => .error (.on .endOfHexEscape cs)
  | cs => .error (.on .endOfHexEscape cs)

/-- The character of an escape that is one letter. -/
def letterEscape? (c : Char) : Option Char :=
  if c = '"' || c = '\\' || c = '/' then some c
  else if c = 'b' then some '\x08'
  else if c = 'f' then some '\x0c'
  else if c = 'n' then some '\n'
  else if c = 'r' then some '\r'
  else if c = 't' then some '\t'
  else none

/-- The character that an escape stands for, after its backslash. -/
def readEscape (cs : List Char) : Except Error (Char × List Char) :=
  match cs with
  | [] => .error (.before .eofInString [])
  | c :: cs =>
    if c = 'u' then
      match readHex cs with
      | .error e => .error e
      | .ok (n, rest) =>
        if isLowSurrogate n then .error (.before .loneSurrogate rest)
        else if isHighSurrogate n then readLowHalf n rest
        else .ok (Char.ofNat n, rest)
    else
      match letterEscape? c with
      | some x => .ok (x, cs)
      | none => .error (.on .invalidEscape (c :: cs))

theorem length_readLowHalf {high : Nat} {cs rest : List Char} {c : Char}
    (h : readLowHalf high cs = .ok (c, rest)) : rest.length < cs.length := by
  unfold readLowHalf at h
  split at h <;> try simp at h
  split at h
  · simp at h
  · next h' =>
    have := length_readHex h'
    split at h
    · injection h with h
      injection h with _ h
      subst h
      simp
      omega
    · simp at h

theorem length_readEscape {cs rest : List Char} {c : Char}
    (h : readEscape cs = .ok (c, rest)) : rest.length < cs.length := by
  unfold readEscape at h
  split at h
  · simp at h
  · split at h
    · split at h
      · simp at h
      · next h' =>
        have := length_readHex h'
        split at h
        · simp at h
        · split at h
          · have := length_readLowHalf h
            simp
            omega
          · injection h with h
            injection h with _ h
            subst h
            simp
            omega
    · split at h
      · injection h with h
        injection h with _ h
        subst h
        simp
      · simp at h

/-- The next character of a string, or none behind the closing quote. -/
def readElement (cs : List Char) : Except Error (Option Char × List Char) :=
  match cs with
  | [] => .error (.before .eofInString [])
  | c :: r =>
    if c = '"' then .ok (none, r)
    else if c = '\\' then (readEscape r).map fun (x, rest) => (some x, rest)
    else if c.toNat < 0x20 then .error (.on .controlCharacter (c :: r))
    else .ok (some c, r)

theorem length_readElement {cs rest : List Char} {x : Option Char}
    (h : readElement cs = .ok (x, rest)) : rest.length < cs.length := by
  unfold readElement at h
  split at h
  · simp at h
  · next c r =>
    split at h
    · injection h with h
      injection h with _ h
      subst h
      simp
    · split at h
      · cases hr : readEscape r with
        | error e => simp [hr, Except.map] at h
        | ok p =>
          have hlt := length_readEscape (show _ = Except.ok (p.1, p.2) from hr)
          simp only [hr, Except.map] at h
          injection h with h
          injection h with _ h
          subst h
          simp
          omega
      · split at h
        · simp at h
        · injection h with h
          injection h with _ h
          subst h
          simp

/-- The text of a string, after its opening quote. -/
def readString (cs : List Char) : Except Error (List Char × List Char) :=
  match _h : readElement cs with
  | .error e => .error e
  | .ok (none, rest) => .ok ([], rest)
  | .ok (some c, rest) =>
    match readString rest with
    | .error e => .error e
    | .ok (s, rest) => .ok (c :: s, rest)
termination_by cs.length
decreasing_by exact length_readElement _h

theorem length_readString {cs s rest : List Char} (h : readString cs = .ok (s, rest)) :
    rest.length < cs.length := by
  fun_induction readString cs generalizing s rest with
  | case1 => simp at h
  | case2 cs r he =>
    injection h with h
    injection h with _ h
    subst h
    exact length_readElement he
  | case3 => simp at h
  | case4 cs c r he s' r' hr ih =>
    injection h with h
    injection h with _ h
    subst h
    exact Nat.lt_trans (ih hr) (length_readElement he)

/-- Passes over an escape; it need not stand for a character. -/
def skipEscape (cs : List Char) : Except Error (List Char) :=
  match cs with
  | [] => .error (.before .eofInString [])
  | c :: cs =>
    if c = 'u' then (readHex cs).map (·.2)
    else if (letterEscape? c).isSome then .ok cs
    else .error (.on .invalidEscape (c :: cs))

theorem length_skipEscape {cs rest : List Char} (h : skipEscape cs = .ok rest) :
    rest.length < cs.length := by
  unfold skipEscape at h
  split at h
  · simp at h
  · next c r =>
    split at h
    · cases hr : readHex r with
      | error e => simp [hr, Except.map] at h
      | ok p =>
        have hlt := length_readHex (show _ = Except.ok (p.1, p.2) from hr)
        simp only [hr, Except.map] at h
        injection h with h
        subst h
        simp
        omega
    · split at h
      · injection h with h
        subst h
        simp
      · simp at h

def skipString (cs : List Char) : Except Error (List Char) :=
  match cs with
  | [] => .error (.before .eofInString [])
  | c :: r =>
    if c = '"' then .ok r
    else if c = '\\' then
      match h : skipEscape r with
      | .error e => .error e
      | .ok rest =>
        have := length_skipEscape h
        skipString rest
    else if c.toNat < 0x20 then .error (.before .controlCharacter (c :: r))
    else skipString r
termination_by cs.length

theorem length_skipString {cs rest : List Char} (h : skipString cs = .ok rest) :
    rest.length < cs.length := by
  fun_induction skipString cs generalizing rest with
  | case1 => simp at h
  | case2 => injection h with h; subst h; simp
  | case3 => simp at h
  | case4 c r r' he hlt ih =>
    have := ih h
    simp
    omega
  | case5 => simp at h
  | case6 c r _ _ _ ih =>
    have := ih h
    simp
    omega

inductive Bracket where
  | list
  | object
  deriving DecidableEq, Repr

def Bracket.eof : Bracket → Cause
  | .list => .eofInList
  | .object => .eofInObject

def Bracket.expectedEnd : Bracket → Cause
  | .list => .expectedListEnd
  | .object => .expectedObjectEnd

def Bracket.closing : Bracket → Char
  | .list => ']'
  | .object => '}'

/-- The key of a member and the colon after it. -/
def skipKey (cs : List Char) : Except Error (List Char) :=
  match skipBlanks cs with
  | [] => .error (.on .eofInObject [])
  | c :: r =>
    if c = '"' then
      match skipString r with
      | .error e => .error e
      | .ok rest =>
        match skipBlanks rest with
        | [] => .error (.on .eofInObject [])
        | d :: rest =>
          if d = ':' then .ok rest else .error (.on .expectedColon (d :: rest))
    else .error (.on .keyNotString (c :: r))

theorem length_skipKey {cs rest : List Char} (h : skipKey cs = .ok rest) :
    rest.length < cs.length := by
  unfold skipKey at h
  have hb := length_skipBlanks cs
  split at h
  · simp at h
  · next c r heq =>
    rw [heq] at hb
    split at h
    · split at h
      · simp at h
      · next r' hs =>
        have h1 := length_skipString hs
        have h2 := length_skipBlanks r'
        split at h
        · simp at h
        · next heq' =>
          rw [heq'] at h2
          split at h
          · injection h with h
            subst h
            simp at hb h2
            omega
          · simp at h
    · simp at h

/-- Passes over a value that is neither list nor object. -/
def skipScalar (c : Char) (r : List Char) : Except Error (List Char) :=
  if c = 'n' then readWord ['u', 'l', 'l'] r
  else if c = 't' then readWord ['r', 'u', 'e'] r
  else if c = 'f' then readWord ['a', 'l', 's', 'e'] r
  else if c = '-' then skipNumber r
  else if c.isDigit then skipNumber (c :: r)
  else if c = '"' then skipString r
  else .error (.on .expectedValue (c :: r))

theorem length_skipScalar {c : Char} {r rest : List Char} (h : skipScalar c r = .ok rest) :
    rest.length < (c :: r).length := by
  have weak : ∀ n : Nat, n ≤ r.length → n < (c :: r).length := fun n hn => by simp; omega
  unfold skipScalar at h
  repeat' split at h
  · exact weak _ (length_readWord h)
  · exact weak _ (length_readWord h)
  · exact weak _ (length_readWord h)
  · exact weak _ (Nat.le_of_lt (length_skipNumber h))
  · exact length_skipNumber h
  · exact weak _ (Nat.le_of_lt (length_skipString h))
  · simp at h

mutual

/-- Passes over a value and what is left of the lists and objects around it, the
innermost first. -/
def skipValue (around : List Bracket) (cs : List Char) : Except Error (List Char) :=
  match h : skipBlanks cs with
  | [] => .error (.on .eofInValue [])
  | c :: r =>
    have : (c :: r).length ≤ cs.length := h ▸ length_skipBlanks cs
    if c = '[' then skipFirst .list around r
    else if c = '{' then skipFirst .object around r
    else
      match h' : skipScalar c r with
      | .error e => .error e
      | .ok rest =>
        have := length_skipScalar h'
        skipAfter around rest
termination_by (cs.length, 0)

/-- Behind an opening bracket. -/
def skipFirst (b : Bracket) (around : List Bracket) (cs : List Char) :
    Except Error (List Char) :=
  match h : skipBlanks cs with
  | [] => .error (.on b.eof [])
  | c :: r =>
    have : (c :: r).length ≤ cs.length := h ▸ length_skipBlanks cs
    if c = b.closing then skipAfter around r
    else skipMember b around cs
termination_by (cs.length, 2)

/-- At an item or a member. -/
def skipMember (b : Bracket) (around : List Bracket) (cs : List Char) :
    Except Error (List Char) :=
  match b with
  | .list => skipValue (.list :: around) cs
  | .object =>
    match h : skipKey cs with
    | .error e => .error e
    | .ok rest =>
      have := length_skipKey h
      skipValue (.object :: around) rest
termination_by (cs.length, 1)

/-- Behind a value. -/
def skipAfter (around : List Bracket) (cs : List Char) : Except Error (List Char) :=
  match around with
  | [] => .ok cs
  | b :: around =>
    match h : skipBlanks cs with
    | [] => .error (.on b.eof [])
    | c :: r =>
      have : (c :: r).length ≤ cs.length := h ▸ length_skipBlanks cs
      if c = ',' then skipMember b around r
      else if c = b.closing then skipAfter around r
      else .error (.on b.expectedEnd (c :: r))
termination_by (cs.length, 0)

end

theorem skipValue_eq (around : List Bracket) (cs : List Char) :
    skipValue around cs = match skipBlanks cs with
      | [] => .error (.on .eofInValue [])
      | c :: r =>
        if c = '[' then skipFirst .list around r
        else if c = '{' then skipFirst .object around r
        else (skipScalar c r).bind (skipAfter around) := by
  rw [skipValue]
  split
  · next h => simp only [h]
  · next c r h =>
    simp only [h]
    split
    · rfl
    · split
      · rfl
      · split
        · next h' => rw [h']; rfl
        · next h' => rw [h']; rfl

theorem skipFirst_eq (b : Bracket) (around : List Bracket) (cs : List Char) :
    skipFirst b around cs = match skipBlanks cs with
      | [] => .error (.on b.eof [])
      | c :: r => if c = b.closing then skipAfter around r else skipMember b around cs := by
  rw [skipFirst]
  split
  · next h => simp only [h]
  · next c r h => simp only [h]

theorem skipMember_list (around : List Bracket) (cs : List Char) :
    skipMember .list around cs = skipValue (.list :: around) cs := by
  rw [skipMember]

theorem skipMember_object (around : List Bracket) (cs : List Char) :
    skipMember .object around cs = (skipKey cs).bind (skipValue (.object :: around)) := by
  rw [skipMember]
  split
  · next h => rw [h]; rfl
  · next h => simp only [h, Except.bind]

theorem skipAfter_nil (cs : List Char) : skipAfter [] cs = .ok cs := by
  rw [skipAfter]

theorem skipAfter_cons (b : Bracket) (around : List Bracket) (cs : List Char) :
    skipAfter (b :: around) cs = match skipBlanks cs with
      | [] => .error (.on b.eof [])
      | c :: r =>
        if c = ',' then skipMember b around r
        else if c = b.closing then skipAfter around r
        else .error (.on b.expectedEnd (c :: r)) := by
  rw [skipAfter]
  split
  · next h => simp only [h]
  · next c r h => simp only [h]

theorem length_skipValue {around : List Bracket} {cs rest : List Char}
    (h : skipValue around cs = .ok rest) : rest.length < cs.length := by
  revert rest
  refine skipValue.induct
    (fun around cs => ∀ {rest}, skipValue around cs = .ok rest → rest.length < cs.length)
    (fun around cs => ∀ {rest}, skipAfter around cs = .ok rest → rest.length ≤ cs.length)
    (fun b around cs => ∀ {rest}, skipMember b around cs = .ok rest → rest.length < cs.length)
    (fun b around cs => ∀ {rest}, skipFirst b around cs = .ok rest → rest.length < cs.length)
    ?_ ?_ ?_ ?_ ?_ ?_ ?_ ?_ ?_ ?_ ?_ ?_ ?_ ?_ ?_ ?_ around cs
  · intro around cs hb rest h
    simp [skipValue_eq, hb] at h
  · intro around cs r hb hl ih rest h
    simp only [skipValue_eq, hb, reduceIte] at h
    have := ih h
    simp at hl
    omega
  · intro around cs r hb hl hne ih rest h
    simp only [skipValue_eq, hb, hne, reduceIte] at h
    have := ih h
    simp at hl
    omega
  · intro around cs c r hb hl h1 h2 e he rest h
    simp [skipValue_eq, hb, h1, h2, he, Except.bind] at h
  · intro around cs c r hb hl h1 h2 rest' hs hlt ih rest h
    simp only [skipValue_eq, hb, h1, h2, hs, reduceIte, Except.bind] at h
    have := ih h
    omega
  · intro cs rest h
    simp [skipAfter_nil] at h
    simp [h]
  · intro cs b around hb rest h
    simp [skipAfter_cons, hb] at h
  · intro cs b around r hb hl ih rest h
    simp only [skipAfter_cons, hb, reduceIte] at h
    have := ih h
    simp at hl
    omega
  · intro cs b around r hb hl hne ih rest h
    simp only [skipAfter_cons, hb, hne, reduceIte] at h
    have := ih h
    simp at hl
    omega
  · intro cs b around c r hb hl h1 h2 rest h
    simp [skipAfter_cons, hb, h1, h2] at h
  · intro around cs ih rest h
    rw [skipMember_list] at h
    exact ih h
  · intro around cs e he rest h
    simp [skipMember_object, he, Except.bind] at h
  · intro around cs rest' he hlt ih rest h
    simp only [skipMember_object, he, Except.bind] at h
    have := ih h
    omega
  · intro b around cs hb rest h
    simp [skipFirst_eq, hb] at h
  · intro b around cs r hb hl ih rest h
    simp only [skipFirst_eq, hb, reduceIte] at h
    have := ih h
    simp at hl
    omega
  · intro b around cs c r hb hl hne ih rest h
    simp only [skipFirst_eq, hb, hne, reduceIte] at h
    exact ih h

/-- Passes over one value of any kind. -/
def skip (cs : List Char) : Except Error (List Char) := skipValue [] cs

theorem length_skip {cs rest : List Char} (h : skip cs = .ok rest) :
    rest.length < cs.length :=
  length_skipValue h

end Liveness.Json
