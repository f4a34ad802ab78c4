import Liveness.Config.Basic
import Liveness.Json.Reader

/-! Configurations in JSON: an object with the fields by name, or a list with them in
order. Members of other names are passed over whatever they hold. -/

namespace Liveness.Config

open Liveness.Json (Cause Error Found skipBlanks readString readNumber readWord skip
  length_skipBlanks length_readString length_readNumber length_readWord length_skip)

namespace OfJson

/-- The error for a value that begins with `c` and is not of the kind expected. -/
def wrongKind (expected : String) (c : Char) (r : List Char) : Error :=
  let of (found : Found) (rest : List Char) : Error := .before (.invalidType found expected) rest
  let word (letters : List Char) (found : Found) : Error :=
    match readWord letters r with
    | .error e => e
    | .ok rest => of found rest
  if c = 'n' then word ['u', 'l', 'l'] .null
  else if c = 't' then word ['r', 'u', 'e'] (.bool true)
  else if c = 'f' then word ['a', 'l', 's', 'e'] (.bool false)
  else if c = '-' then
    match readNumber true r with
    | .error e => e
    | .ok (found, rest) => of found rest
  else if c.isDigit then
    match readNumber false (c :: r) with
    | .error e => e
    | .ok (found, rest) => of found rest
  else if c = '"' then
    match readString r with
    | .error e => e
    | .ok (s, rest) => of (.string (String.ofList s)) rest
  else if c = '[' then of .sequence (c :: r)
  else if c = '{' then of .map (c :: r)
  else .on .expectedValue (c :: r)

/-- A string where `expected` is wanted. -/
def readText (expected : String) (cs : List Char) : Except Error (String × List Char) :=
  match skipBlanks cs with
  | [] => .error (.on .eofInValue [])
  | c :: r =>
    if c = '"' then
      match readString r with
      | .error e => .error e
      | .ok (s, rest) => .ok (String.ofList s, rest)
    else .error (wrongKind expected c r)

def readUrl (cs : List Char) : Except Error (Url × List Char) :=
  match readText expectedUrl cs with
  | .error e => .error e
  | .ok (s, rest) =>
    match Url.parse s with
    | .ok u => .ok (u, rest)
    | .error cause => .error (.before (.invalidUrl cause s) rest)

/-- The number of seconds that a numeral gives: a word that is not negative. -/
def seconds (p : Found × List Char) : Except Error (UInt64 × List Char) :=
  match p with
  | (.natural n, rest) => .ok (n.toUInt64, rest)
  | (.negative n, rest) => .error (.before (.invalidValue (.negative n) expectedTimeout) rest)
  | (found, rest) => .error (.before (.invalidType found expectedTimeout) rest)

def readSeconds (cs : List Char) : Except Error (UInt64 × List Char) :=
  match skipBlanks cs with
  | [] => .error (.on .eofInValue [])
  | c :: r =>
    if c = '-' then (readNumber true r).bind seconds
    else if c.isDigit then (readNumber false (c :: r)).bind seconds
    else .error (wrongKind expectedTimeout c r)

/-- `null`, or what `read` reads. -/
def readOptional {α : Type} (read : List Char → Except Error (α × List Char))
    (cs : List Char) : Except Error (Option α × List Char) :=
  match skipBlanks cs with
  | 'n' :: r =>
    match readWord ['u', 'l', 'l'] r with
    | .error e => .error e
    | .ok rest => .ok (none, rest)
  | _ =>
    match read cs with
    | .error e => .error e
    | .ok (a, rest) => .ok (some a, rest)

/-- Adds the value of a field to a draft. -/
def readField (d : Draft) (f : Field) (cs : List Char) : Except Error (Draft × List Char) :=
  match f with
  | .targetUrl => (readUrl cs).map fun (u, r) => ({ d with targetUrl := some u }, r)
  | .timeoutSecs =>
    (readOptional readSeconds cs).map fun (t, r) => ({ d with timeoutSecs := some t }, r)
  | .userAgent =>
    (readOptional (readText expectedAgent) cs).map fun (a, r) =>
      ({ d with userAgent := some a }, r)

def readColon (cs : List Char) : Except Error (List Char) :=
  match skipBlanks cs with
  | [] => .error (.on .eofInObject [])
  | c :: r => if c = ':' then .ok r else .error (.on .expectedColon (c :: r))

/-- A second member of a known name is reported behind its key, or behind the end of the
object should that follow. -/
def duplicate (f : Field) (rest : List Char) : Error :=
  let place := match skipBlanks rest with
    | '}' :: r => r
    | r => r
  .before (.duplicateField f.name) place

/-- A member, after the opening quote of its key. -/
def readMember (d : Draft) (cs : List Char) : Except Error (Draft × List Char) :=
  match readString cs with
  | .error e => .error e
  | .ok (key, rest) =>
    match Field.ofName? (String.ofList key) with
    | some f =>
      if d.has f then .error (duplicate f rest)
      else (readColon rest).bind (readField d f)
    | none => ((readColon rest).bind skip).map fun rest => (d, rest)

/-- Whether an object goes on, and the text behind the opening quote of its first key or
behind its end. -/
def firstKey (cs : List Char) : Except Error (Bool × List Char) :=
  match skipBlanks cs with
  | [] => .error (.on .eofInObject [])
  | c :: r =>
    if c = '}' then .ok (false, r)
    else if c = '"' then .ok (true, r)
    else .error (.on .keyNotString (c :: r))

/-- The same behind a member. -/
def nextKey (cs : List Char) : Except Error (Bool × List Char) :=
  match skipBlanks cs with
  | [] => .error (.on .eofInObject [])
  | c :: r =>
    if c = '}' then .ok (false, r)
    else if c = ',' then
      match skipBlanks r with
      | [] => .error (.on .eofInValue [])
      | d :: r =>
        if d = '"' then .ok (true, r)
        else if d = '}' then .error (.on .trailingComma (d :: r))
        else .error (.on .keyNotString (d :: r))
    else .error (.on .expectedObjectEnd (c :: r))

theorem length_readText {expected : String} {cs rest : List Char} {s : String}
    (h : readText expected cs = .ok (s, rest)) : rest.length ≤ cs.length := by
  unfold readText at h
  have hb := length_skipBlanks cs
  split at h
  · simp at h
  · next c r heq =>
    rw [heq] at hb
    split at h
    · split at h
      · simp at h
      · next hs =>
        have := length_readString hs
        injection h with h
        injection h with _ h
        subst h
        simp at hb
        omega
    · simp at h

theorem length_readUrl {cs rest : List Char} {u : Url} (h : readUrl cs = .ok (u, rest)) :
    rest.length ≤ cs.length := by
  unfold readUrl at h
  split at h
  · simp at h
  · next ht =>
    have := length_readText ht
    split at h
    · injection h with h
      injection h with _ h
      subst h
      exact this
    · simp at h

theorem seconds_rest {p : Found × List Char} {rest : List Char} {n : UInt64}
    (h : seconds p = .ok (n, rest)) : rest = p.2 := by
  unfold seconds at h
  split at h
  · injection h with h
    injection h with _ h
    exact h.symm
  · simp at h
  · simp at h

theorem length_readSeconds {cs rest : List Char} {n : UInt64}
    (h : readSeconds cs = .ok (n, rest)) : rest.length ≤ cs.length := by
  unfold readSeconds at h
  have hb := length_skipBlanks cs
  split at h
  · simp at h
  · next c r heq =>
    rw [heq] at hb
    have key : ∀ (negative : Bool) (ds : List Char), ds.length ≤ cs.length →
        (readNumber negative ds).bind seconds = .ok (n, rest) → rest.length ≤ cs.length := by
      intro negative ds hd hr
      cases hn : readNumber negative ds with
      | error e => simp [hn, Except.bind] at hr
      | ok p =>
        rw [hn] at hr
        rw [seconds_rest hr]
        exact Nat.le_trans (length_readNumber (show _ = Except.ok (p.1, p.2) from hn)) hd
    split at h
    · exact key _ _ (by simp at hb; omega) h
    · split at h
      · exact key _ _ hb h
      · simp at h

theorem length_readOptional {α : Type} {read : List Char → Except Error (α × List Char)}
    (hread : ∀ {cs rest a}, read cs = .ok (a, rest) → rest.length ≤ cs.length)
    {cs rest : List Char} {a : Option α} (h : readOptional read cs = .ok (a, rest)) :
    rest.length ≤ cs.length := by
  unfold readOptional at h
  have hb := length_skipBlanks cs
  split at h
  · next r heq =>
    rw [heq] at hb
    split at h
    · simp at h
    · next hw =>
      have := length_readWord hw
      injection h with h
      injection h with _ h
      subst h
      simp at hb
      omega
  · split at h
    · simp at h
    · next hr =>
      have := hread hr
      injection h with h
      injection h with _ h
      subst h
      exact this

theorem length_readField {d d' : Draft} {f : Field} {cs rest : List Char}
    (h : readField d f cs = .ok (d', rest)) : rest.length ≤ cs.length := by
  cases f with
  | targetUrl =>
    cases hr : readUrl cs with
    | error e => simp [readField, hr, Except.map] at h
    | ok p =>
      have := length_readUrl (show _ = Except.ok (p.1, p.2) from hr)
      simp only [readField, hr, Except.map] at h
      injection h with h
      injection h with _ h
      subst h
      exact this
  | timeoutSecs =>
    cases hr : readOptional readSeconds cs with
    | error e => simp [readField, hr, Except.map] at h
    | ok p =>
      have := length_readOptional length_readSeconds (show _ = Except.ok (p.1, p.2) from hr)
      simp only [readField, hr, Except.map] at h
      injection h with h
      injection h with _ h
      subst h
      exact this
  | userAgent =>
    cases hr : readOptional (readText expectedAgent) cs with
    | error e => simp [readField, hr, Except.map] at h
    | ok p =>
      have := length_readOptional length_readText (show _ = Except.ok (p.1, p.2) from hr)
      simp only [readField, hr, Except.map] at h
      injection h with h
      injection h with _ h
      subst h
      exact this

theorem length_readColon {cs rest : List Char} (h : readColon cs = .ok rest) :
    rest.length ≤ cs.length := by
  unfold readColon at h
  have hb := length_skipBlanks cs
  split at h
  · simp at h
  · next heq =>
    rw [heq] at hb
    split at h
    · injection h with h
      subst h
      simp at hb
      omega
    · simp at h

theorem length_readMember {d d' : Draft} {cs rest : List Char}
    (h : readMember d cs = .ok (d', rest)) : rest.length < cs.length := by
  unfold readMember at h
  split at h
  · simp at h
  · next key r hs =>
    have h1 := length_readString hs
    split at h
    · split at h
      · simp at h
      · cases hc : readColon r with
        | error e => simp [hc, Except.bind] at h
        | ok r' =>
          have h2 := length_readColon hc
          rw [hc] at h
          have h3 := length_readField h
          omega
    · cases hc : readColon r with
      | error e => simp [hc, Except.bind, Except.map] at h
      | ok r' =>
        have h2 := length_readColon hc
        cases hk : skip r' with
        | error e => simp [hc, hk, Except.bind, Except.map] at h
        | ok r'' =>
          have h3 := length_skip hk
          simp only [hc, hk, Except.bind, Except.map] at h
          injection h with h
          injection h with _ h
          subst h
          omega

theorem length_nextKey {cs rest : List Char} {more : Bool}
    (h : nextKey cs = .ok (more, rest)) : rest.length < cs.length := by
  unfold nextKey at h
  have hb := length_skipBlanks cs
  split at h
  · simp at h
  · next c r heq =>
    rw [heq] at hb
    have hb' := length_skipBlanks r
    split at h
    · injection h with h
      injection h with _ h
      subst h
      simp at hb
      omega
    · split at h
      · split at h
        · simp at h
        · next heq' =>
          rw [heq'] at hb'
          split at h
          · injection h with h
            injection h with _ h
            subst h
            simp at hb hb'
            omega
          · split at h <;> simp at h
      · simp at h

/-- The members of an object, after the opening quote of a key. -/
def readMembers (d : Draft) (cs : List Char) : Except Error (Draft × List Char) :=
  match h : readMember d cs with
  | .error e => .error e
  | .ok (d, rest) =>
    match h' : nextKey rest with
    | .error e => .error e
    | .ok (false, rest) => .ok (d, rest)
    | .ok (true, rest) =>
      have := length_readMember h
      have := length_nextKey h'
      readMembers d rest
termination_by cs.length

/-- An object, after its opening brace. -/
def readObject (cs : List Char) : Except Error (Draft × List Char) :=
  match firstKey cs with
  | .error e => .error e
  | .ok (false, rest) => .ok (.empty, rest)
  | .ok (true, rest) => readMembers .empty rest

/-- Whether a list goes on behind an item, and the text that is left. -/
def nextItem (cs : List Char) : Except Error (Bool × List Char) :=
  match skipBlanks cs with
  | [] => .error (.on .eofInList [])
  | c :: r =>
    if c = ']' then .ok (false, c :: r)
    else if c = ',' then
      match skipBlanks r with
      | [] => .error (.on .eofInValue [])
      | d :: r => if d = ']' then .error (.on .trailingComma (d :: r)) else .ok (true, d :: r)
    else .error (.on .expectedListEnd (c :: r))

/-- The fields `fs` of a list, which stands at an item. -/
def readItems (d : Draft) : List Field → List Char → Except Error (Draft × List Char)
  | [], cs => .ok (d, cs)
  | f :: fs, cs =>
    match readField d f cs with
    | .error e => .error e
    | .ok (d, rest) =>
      if fs = [] then .ok (d, rest)
      else
        match nextItem rest with
        | .error e => .error e
        | .ok (false, rest) => .ok (d, rest)
        | .ok (true, rest) => readItems d fs rest

/-- The end of a list that holds no more fields. -/
def endList (cs : List Char) : Except Error (List Char) :=
  match skipBlanks cs with
  | [] => .error (.on .eofInList [])
  | c :: r =>
    if c = ']' then .ok r
    else if c = ',' then
      match skipBlanks r with
      | ']' :: r => .error (.on .trailingComma (']' :: r))
      | r => .error (.on .trailingCharacters r)
    else .error (.on .trailingCharacters (c :: r))

/-- A list, after its opening bracket. -/
def readList (cs : List Char) : Except Error (Draft × List Char) :=
  match skipBlanks cs with
  | [] => .error (.on .eofInList [])
  | c :: r =>
    if c = ']' then .ok (.empty, r)
    else
      match readItems .empty [.targetUrl, .timeoutSecs, .userAgent] (c :: r) with
      | .error e => .error e
      | .ok (d, rest) => (endList rest).map fun rest => (d, rest)

def readDraft (cs : List Char) : Except Error (Draft × List Char) :=
  match skipBlanks cs with
  | [] => .error (.on .eofInValue [])
  | c :: r =>
    if c = '[' then readList r
    else if c = '{' then readObject r
    else .error (wrongKind expectedConfig c r)

end OfJson

open OfJson in
/-- The fields that a JSON text gives. -/
def Draft.ofJson (text : String) : Except Error Draft :=
  match readDraft text.toList with
  | .error e => .error e
  | .ok (d, rest) =>
    match skipBlanks rest with
    | [] => .ok d
    | c :: r => .error (.on .trailingCharacters (c :: r))

end Liveness.Config
