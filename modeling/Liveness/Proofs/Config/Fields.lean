import Liveness.Config.Json
import Liveness.Proofs.Json.Decimals
import Liveness.Proofs.Json.Values

/-! The fields of a configuration, whichever they are: what they hold, what a JSON value means
for them, and that a value is read exactly as what it means. -/

namespace Liveness.Config

open Liveness.Json (Blanks EndsNumber IsText IsValue Spells skip skipBlanks)

/-- The type of what a field holds. -/
def Field.Value : Field → Type
  | .targetUrl => Url
  | .timeoutSecs => Option UInt64
  | .userAgent => Option String

def get (c : Config) : (f : Field) → f.Value
  | .targetUrl => c.targetUrl
  | .timeoutSecs => c.timeoutSecs
  | .userAgent => c.userAgent

theorem ext_get {c c' : Config} (h : ∀ f, c.get f = c'.get f) : c = c' := by
  obtain ⟨u, t, a⟩ := c
  obtain ⟨u', t', a'⟩ := c'
  have hu : u = u' := h .targetUrl
  have ht : t = t' := h .timeoutSecs
  have ha : a = a' := h .userAgent
  rw [hu, ht, ha]

namespace Draft

variable {d d' : Draft} {f g : Field}

def get (d : Draft) : (f : Field) → Option f.Value
  | .targetUrl => d.targetUrl
  | .timeoutSecs => d.timeoutSecs
  | .userAgent => d.userAgent

def set (d : Draft) : (f : Field) → f.Value → Draft
  | .targetUrl, u => { d with targetUrl := some u }
  | .timeoutSecs, t => { d with timeoutSecs := some t }
  | .userAgent, a => { d with userAgent := some a }

@[simp] theorem get_set (d : Draft) (f : Field) (x : f.Value) : (d.set f x).get f = some x := by
  cases f <;> rfl

theorem get_set_of_ne (h : g ≠ f) (x : f.Value) : (d.set f x).get g = d.get g := by
  cases f <;> cases g <;> first | rfl | exact absurd rfl h

@[simp] theorem get_empty (f : Field) : empty.get f = none := by cases f <;> rfl

theorem has_eq (d : Draft) (f : Field) : d.has f = (d.get f).isSome := by cases f <;> rfl

theorem get_finish (d : Draft) (f : Field) :
    d.finish.get f = (d.get f).getD (Config.default.get f) := by
  cases f <;> rfl

theorem ext_get (h : ∀ f, d.get f = d'.get f) : d = d' := by
  obtain ⟨u, t, a⟩ := d
  obtain ⟨u', t', a'⟩ := d'
  have hu : u = u' := h .targetUrl
  have ht : t = t' := h .timeoutSecs
  have ha : a = a' := h .userAgent
  rw [hu, ht, ha]

end Draft

/-- What the text of a JSON value means where a field is wanted. -/
inductive Means : (f : Field) → List Char → f.Value → Prop
  | target {s : String} {v : List Char} {u : Url} : IsText s v → Url.parse s = .ok u →
      Means .targetUrl v u
  | noTimeout : Means .timeoutSecs ['n', 'u', 'l', 'l'] none
  /-- A number of seconds is written in decimals, and nothing else. -/
  | timeout (n : UInt64) : Means .timeoutSecs (Nat.toDigits 10 n.toNat) (some n)
  | noAgent : Means .userAgent ['n', 'u', 'l', 'l'] none
  | agent {s : String} {v : List Char} : IsText s v → Means .userAgent v (some s)

theorem isValue_of_means {f : Field} {v : List Char} {x : f.Value} (h : Means f v x) :
    IsValue v := by
  cases h with
  | target hv _ => exact Json.isValue_of_isText hv
  | noTimeout => exact .scalar .null
  | timeout n => exact .scalar (.number (Json.unsigned_toDigits _))
  | noAgent => exact .scalar .null
  | agent hv => exact Json.isValue_of_isText hv

namespace OfJson

variable {cs r rest v w : List Char} {f : Field}

theorem readText_eq_ok_iff {expected s : String} :
    readText expected cs = .ok (s, rest) ↔
      ∃ w raw, cs = w ++ '"' :: (raw ++ '"' :: rest) ∧ Blanks w ∧ Spells s.toList raw := by
  constructor
  · intro h
    unfold readText at h
    split at h
    · cases h
    · next c r hb =>
      obtain ⟨w, rfl, hw, -⟩ := Json.eq_of_skipBlanks hb
      split at h
      · next hc =>
        split at h
        · cases h
        · next s' rest' hread =>
          cases h
          obtain ⟨raw, rfl, hs⟩ := Json.spells_of_readString hread
          exact ⟨w, raw, by rw [hc], hw, by rwa [String.toList_ofList]⟩
      · cases h
  · rintro ⟨w, raw, rfl, hw, hs⟩
    rw [readText, Json.skipBlanks_append_cons hw rfl]
    dsimp only
    rw [if_pos rfl, Json.readString_of_spells hs]
    dsimp only
    rw [String.ofList_toList]

theorem seconds_eq_ok_iff {p : Json.Found × List Char} {n : UInt64} :
    seconds p = .ok (n, rest) ↔ ∃ m : Nat, p = (.natural m, rest) ∧ m.toUInt64 = n := by
  constructor
  · intro h
    unfold seconds at h
    split at h
    · next m r =>
      cases h
      exact ⟨m, rfl, rfl⟩
    · cases h
    · cases h
  · rintro ⟨m, rfl, rfl⟩
    rfl

theorem readSeconds_eq_ok_iff {n : UInt64} :
    readSeconds cs = .ok (n, rest) ↔
      ∃ w, cs = w ++ (Nat.toDigits 10 n.toNat ++ rest) ∧ Blanks w ∧ EndsNumber rest := by
  constructor
  · intro h
    have read : ∀ {negative : Bool} {ds : List Char},
        (Json.readNumber negative ds).bind seconds = .ok (n, rest) →
        negative = false ∧ ds = Nat.toDigits 10 n.toNat ++ rest ∧ EndsNumber rest := by
      intro negative ds h
      obtain ⟨p, hp, hs⟩ := Except.bind_eq_ok_iff.1 h
      obtain ⟨m, rfl, rfl⟩ := seconds_eq_ok_iff.1 hs
      obtain ⟨hsign, hds, hmax, hends⟩ := Json.digits_of_readNumber hp
      have hm : m.toUInt64.toNat = m :=
        UInt64.toNat_ofNat_of_lt' (Nat.lt_of_le_of_lt hmax (by decide))
      exact ⟨hsign, by rw [hm, hds], hends⟩
    unfold readSeconds at h
    split at h
    · cases h
    · next c r hb =>
      obtain ⟨w, rfl, hw, -⟩ := Json.eq_of_skipBlanks hb
      split at h
      · cases (read h).1
      · split at h
        · obtain ⟨-, hcr, hends⟩ := read h
          exact ⟨w, by rw [hcr], hw, hends⟩
        · cases h
  · rintro ⟨w, rfl, hw, hrest⟩
    obtain ⟨c, r, hcr, hc⟩ := Json.first_of_unsigned (Json.unsigned_toDigits n.toNat)
    have hn : n.toNat ≤ Json.maxWord := Nat.le_sub_one_of_lt n.toNat_lt
    have hread := Json.readNumber_toDigits hn hrest
    rw [hcr, List.cons_append] at hread ⊢
    rw [readSeconds, Json.skipBlanks_append_cons hw (Json.begins_of_isDigit hc).blank]
    dsimp only
    rw [if_neg (Json.ne_of_isDigit hc rfl), if_pos hc, hread]
    simp [Except.bind, seconds]

theorem readOptional_eq_ok_iff {α : Type}
    {read : List Char → Except Json.Error (α × List Char)} {x : Option α} :
    readOptional read cs = .ok (x, rest) ↔
      (x = none ∧ ∃ w, cs = w ++ ('n' :: 'u' :: 'l' :: 'l' :: rest) ∧ Blanks w) ∨
      (∃ a, x = some a ∧ read cs = .ok (a, rest) ∧ ∀ r, skipBlanks cs ≠ 'n' :: r) := by
  constructor
  · intro h
    unfold readOptional at h
    split at h
    · next r hb =>
      obtain ⟨w, rfl, hw, -⟩ := Json.eq_of_skipBlanks hb
      split at h
      · cases h
      · next rest' hword =>
        cases h
        rw [Json.readWord_eq_ok_iff.1 hword]
        exact .inl ⟨rfl, w, rfl, hw⟩
    · next hb =>
      split at h
      · cases h
      · next a rest' hread =>
        cases h
        exact .inr ⟨a, rfl, hread, hb⟩
  · rintro (⟨rfl, w, rfl, hw⟩ | ⟨a, rfl, hread, hb⟩)
    · rw [readOptional, Json.skipBlanks_append_cons hw rfl]
      rfl
    · unfold readOptional
      split
      · next r hr => exact absurd hr (hb r)
      · rw [hread]

/-- Reads what a field holds. -/
def readValue : (f : Field) → List Char → Except Json.Error (f.Value × List Char)
  | .targetUrl => readUrl
  | .timeoutSecs => readOptional readSeconds
  | .userAgent => readOptional (readText expectedAgent)

theorem readField_eq (d : Draft) (f : Field) (cs : List Char) :
    readField d f cs = (readValue f cs).map fun (x, r) => (d.set f x, r) := by
  cases f <;> rfl

theorem readUrl_eq_ok_iff {u : Url} :
    readUrl cs = .ok (u, rest) ↔
      ∃ s, readText expectedUrl cs = .ok (s, rest) ∧ Url.parse s = .ok u := by
  unfold readUrl
  cases readText expectedUrl cs with
  | error e => simp
  | ok p =>
    dsimp only
    cases hp : Url.parse p.1 with
    | error e => simp [Prod.ext_iff, hp]
    | ok u' => simp [Prod.ext_iff, hp, and_comm]

/-- What is read is a value with that meaning. -/
theorem means_of_readValue {x : f.Value} (h : readValue f cs = .ok (x, rest)) :
    ∃ w v, cs = w ++ (v ++ rest) ∧ Blanks w ∧ Means f v x ∧ skip cs = .ok rest := by
  have null : ∀ {w : List Char}, Blanks w →
      skip (w ++ ('n' :: 'u' :: 'l' :: 'l' :: rest)) = .ok rest := by
    intro w hw
    rw [skip, Json.skipValue_blanks hw, Json.skipValue_eq]
    change Json.skipAfter [] rest = _
    exact Json.skipAfter_nil rest
  have text : ∀ {expected s : String}, readText expected cs = .ok (s, rest) →
      ∃ w v, cs = w ++ (v ++ rest) ∧ Blanks w ∧ IsText s v ∧ skip cs = .ok rest := by
    intro expected s h
    obtain ⟨w, raw, rfl, hw, hs⟩ := readText_eq_ok_iff.1 h
    refine ⟨w, _, by simp, hw, .mk hs, ?_⟩
    rw [skip, Json.skipValue_blanks hw, Json.skipValue_eq]
    change (Json.skipString (raw ++ '"' :: rest)).bind (Json.skipAfter []) = _
    rw [Json.skipString_of_raw (Json.raw_of_spells hs)]
    exact Json.skipAfter_nil rest
  cases f with
  | targetUrl =>
    obtain ⟨s, hs, hu⟩ := readUrl_eq_ok_iff.1 h
    obtain ⟨w, v, hcs, hw, hv, hskip⟩ := text hs
    exact ⟨w, v, hcs, hw, .target hv hu, hskip⟩
  | timeoutSecs =>
    rcases readOptional_eq_ok_iff.1 h with ⟨rfl, w, rfl, hw⟩ | ⟨n, rfl, hn, -⟩
    · exact ⟨w, _, rfl, hw, .noTimeout, null hw⟩
    · obtain ⟨w, rfl, hw, hrest⟩ := readSeconds_eq_ok_iff.1 hn
      exact ⟨w, _, rfl, hw, .timeout n,
        Json.skip_of_value hw (isValue_of_means (.timeout n)) hrest⟩
  | userAgent =>
    rcases readOptional_eq_ok_iff.1 h with ⟨rfl, w, rfl, hw⟩ | ⟨s, rfl, hs, -⟩
    · exact ⟨w, _, rfl, hw, .noAgent, null hw⟩
    · obtain ⟨w, v, hcs, hw, hv, hskip⟩ := text hs
      exact ⟨w, v, hcs, hw, .agent hv, hskip⟩

/-- A value that means something is read as that. -/
theorem readValue_of_means {x : f.Value} (hw : Blanks w) (h : Means f v x)
    (hrest : EndsNumber rest) : readValue f (w ++ (v ++ rest)) = .ok (x, rest) := by
  have text : ∀ {expected s : String} {v : List Char}, IsText s v →
      readText expected (w ++ (v ++ rest)) = .ok (s, rest) := by
    intro expected s v hv
    cases hv with
    | @mk raw hs => exact readText_eq_ok_iff.2 ⟨w, raw, by simp, hw, hs⟩
  -- where `null` is allowed, what is no `null` does not begin like one
  have noNull : ∀ {c : Char} {r : List Char}, Json.isBlank c = false → c ≠ 'n' →
      ∀ r', skipBlanks (w ++ ((c :: r) ++ rest)) ≠ 'n' :: r' := by
    intro c r hc hn r' heq
    rw [List.cons_append, Json.skipBlanks_append_cons hw hc] at heq
    exact hn (List.cons.inj heq).1
  cases h with
  | target hv hu => exact readUrl_eq_ok_iff.2 ⟨_, text hv, hu⟩
  | noTimeout => exact readOptional_eq_ok_iff.2 (.inl ⟨rfl, w, rfl, hw⟩)
  | timeout n =>
    refine readOptional_eq_ok_iff.2 (.inr ⟨n, rfl,
      readSeconds_eq_ok_iff.2 ⟨w, rfl, hw, hrest⟩, ?_⟩)
    obtain ⟨c, r, hcr, hc⟩ := Json.first_of_unsigned (Json.unsigned_toDigits n.toNat)
    rw [hcr]
    exact noNull (Json.begins_of_isDigit hc).blank (Json.ne_of_isDigit hc rfl)
  | noAgent => exact readOptional_eq_ok_iff.2 (.inl ⟨rfl, w, rfl, hw⟩)
  | agent hv =>
    refine readOptional_eq_ok_iff.2 (.inr ⟨_, rfl, text hv, ?_⟩)
    cases hv with
    | mk hs => exact noNull rfl (by decide)

/-- Where a value ends, reading what it means ends as well, and it means what is read. -/
theorem readValue_eq_ok_iff {x : f.Value} (hw : Blanks w) (hv : IsValue v)
    (hrest : EndsNumber rest) :
    readValue f (w ++ (v ++ rest)) = .ok (x, r) ↔ Means f v x ∧ r = rest := by
  constructor
  · intro h
    obtain ⟨w', v', hcs, hw', hmeans, hskip⟩ := means_of_readValue h
    rw [Json.skip_of_value hw hv hrest] at hskip
    cases hskip
    have hsame : w ++ v = w' ++ v' := by
      rw [← List.append_assoc, ← List.append_assoc] at hcs
      exact List.append_cancel_right hcs
    rw [Json.eq_of_blanks_append hw hw' hv (isValue_of_means hmeans) hsame]
    exact ⟨hmeans, rfl⟩
  · rintro ⟨hmeans, rfl⟩
    exact readValue_of_means hw hmeans hrest

end OfJson

end Liveness.Config
