import Liveness.Proofs.Config.Fields

/-! Reading the members of an object and the items of a list. Each gives a field at most once;
items give the fields in their order, as members of their names would. -/

namespace Liveness.Config

open Liveness.Json (Blanks Bracket EndsNumber IsItem IsMember IsValue Separated Spells skip
  skipBlanks)

@[simp] theorem Field.ofName?_name (f : Field) : ofName? f.name = some f := by cases f <;> rfl

theorem Field.ofName?_eq_some_iff {s : String} {f : Field} : ofName? s = some f ↔ s = f.name := by
  constructor
  · intro h
    unfold ofName? at h
    split_ifs at h with h₁ h₂ h₃ <;> cases h <;> assumption
  · rintro rfl
    exact ofName?_name f

theorem Field.name_injective {f g : Field} (h : f.name = g.name) : f = g := by
  have hf := ofName?_name f
  rw [h, ofName?_name] at hf
  exact (Option.some.inj hf).symm

/-- The values of the members that have a field's name, in their order. -/
def given (f : Field) (ms : List (String × List Char)) : List (List Char) :=
  (ms.filter fun m => m.1 = f.name).map (·.2)

theorem given_cons_name (f : Field) (v : List Char) (ms : List (String × List Char)) :
    given f ((f.name, v) :: ms) = v :: given f ms := by
  simp [given]

theorem given_cons_of_ne {f : Field} {key : String} (h : key ≠ f.name) (v : List Char)
    (ms : List (String × List Char)) : given f ((key, v) :: ms) = given f ms := by
  simp [given, h]

/-- The members give the fields that the draft `d'` has and `d` has not, one each. -/
def Adds : List (String × List Char) → Draft → Draft → Prop
  | [], d, d' => d' = d
  | (key, v) :: ms, d, d' =>
    match Field.ofName? key with
    | none => Adds ms d d'
    | some f => d.get f = none ∧ ∃ x, Means f v x ∧ Adds ms (d.set f x) d'

/-- What a draft `d'` has of a field comes from one of these values, if there is one, and else
from the draft `d`. -/
inductive Takes (d d' : Draft) (f : Field) : List (List Char) → Prop
  | none : d'.get f = d.get f → Takes d d' f []
  | one {v : List Char} {x : f.Value} : d.get f = Option.none → Means f v x →
      d'.get f = some x → Takes d d' f [v]

variable {d d' : Draft} {f : Field} {ms : List (String × List Char)} {v : List Char}

theorem Takes.congr {e : Draft} {vs : List (List Char)} (h : Takes d d' f vs)
    (he : d.get f = e.get f) : Takes e d' f vs := by
  cases h with
  | none hsame => exact .none (hsame.trans he)
  | one hfree hv hx => exact .one (he.symm.trans hfree) hv hx

theorem given_cons_of_ofName?_eq_none {key : String} (h : Field.ofName? key = none)
    (f : Field) (v : List Char) (ms : List (String × List Char)) :
    given f ((key, v) :: ms) = given f ms := by
  refine given_cons_of_ne ?_ v ms
  rintro rfl
  rw [Field.ofName?_name] at h
  cases h

theorem given_cons_name_of_ne {g : Field} (h : g ≠ f) :
    given g ((f.name, v) :: ms) = given g ms :=
  given_cons_of_ne (fun heq => h (Field.name_injective heq).symm) v ms

/-- What is free for a member is taken by it, and behind it only others are. -/
theorem takes_cons {x : f.Value} (hfree : d.get f = none) (hv : Means f v x)
    (h : ∀ g, Takes (d.set f x) d' g (given g ms)) (g : Field) :
    Takes d d' g (given g ((f.name, v) :: ms)) := by
  have hg := h g
  rcases eq_or_ne g f with rfl | hne
  · rw [given_cons_name]
    -- another member of the same name would find the field taken
    cases hvs : given g ms with
    | nil =>
      rw [hvs] at hg
      cases hg with
      | none hsame => exact .one hfree hv (hsame.trans (Draft.get_set d g x))
    | cons v' vs =>
      rw [hvs] at hg
      cases hg with
      | one htaken _ _ =>
        rw [Draft.get_set] at htaken
        cases htaken
  · rw [given_cons_name_of_ne hne]
    exact hg.congr (Draft.get_set_of_ne hne x)

theorem takes_cons_iff : (∀ g, Takes d d' g (given g ((f.name, v) :: ms))) ↔
    d.get f = none ∧ ∃ x, Means f v x ∧ ∀ g, Takes (d.set f x) d' g (given g ms) := by
  constructor
  · intro h
    have hf := h f
    rw [given_cons_name] at hf
    generalize hvs : given f ms = vs at hf
    cases hf with
    | one hfree hv hx =>
      refine ⟨hfree, _, hv, fun g => ?_⟩
      rcases eq_or_ne g f with rfl | hne
      · rw [hvs]
        exact .none (hx.trans (Draft.get_set d g _).symm)
      · rw [← given_cons_name_of_ne hne]
        exact (h g).congr (Draft.get_set_of_ne hne _).symm
  · rintro ⟨hfree, x, hv, h⟩
    exact takes_cons hfree hv h

/-- Members add exactly what each field takes from those of its name. -/
theorem adds_iff : Adds ms d d' ↔ ∀ f, Takes d d' f (given f ms) := by
  induction ms generalizing d with
  | nil =>
    constructor
    · rintro rfl f
      exact .none rfl
    · intro h
      refine Draft.ext_get fun f => ?_
      cases h f with
      | none hsame => exact hsame
  | cons m ms ih =>
    obtain ⟨key, v⟩ := m
    rw [Adds]
    cases hkey : Field.ofName? key with
    | none =>
      simp only [given_cons_of_ofName?_eq_none hkey]
      exact ih
    | some f =>
      rw [Field.ofName?_eq_some_iff] at hkey
      subst hkey
      simp only [takes_cons_iff, ih]

theorem adds_cons {m : String × List Char} :
    Adds (m :: ms) d d' ↔ ∃ d₁, Adds [m] d d₁ ∧ Adds ms d₁ d' := by
  obtain ⟨key, v⟩ := m
  simp only [Adds]
  cases Field.ofName? key with
  | none => simp
  | some f => aesop

namespace OfJson

variable {cs es r rest w : List Char} {more : Bool}

theorem readColon_blanks (hw : Blanks w) (cs : List Char) :
    readColon (w ++ ':' :: cs) = .ok cs := by
  rw [readColon, Json.skipBlanks_append_cons hw rfl]
  exact if_pos rfl

theorem colon_of_readColon (h : readColon cs = .ok rest) :
    ∃ w, cs = w ++ ':' :: rest ∧ Blanks w := by
  unfold readColon at h
  split at h
  · cases h
  · next c r hb =>
    obtain ⟨w, rfl, hw, -⟩ := Json.eq_of_skipBlanks hb
    split at h
    · next hc =>
      cases h
      rw [hc]
      exact ⟨w, rfl, hw⟩
    · cases h

theorem nextKey_closing (hw : Blanks w) : nextKey (w ++ '}' :: cs) = .ok (false, cs) := by
  rw [nextKey, Json.skipBlanks_append_cons hw rfl]
  exact if_pos rfl

theorem nextKey_comma {w' : List Char} (hw : Blanks w) (hw' : Blanks w') :
    nextKey (w ++ ',' :: (w' ++ '"' :: cs)) = .ok (true, cs) := by
  rw [nextKey, Json.skipBlanks_append_cons hw rfl]
  dsimp only
  rw [if_neg (by decide), if_pos rfl, Json.skipBlanks_append_cons hw' rfl]
  exact if_pos rfl

theorem cases_of_nextKey (h : nextKey cs = .ok (more, rest)) :
    (more = false ∧ ∃ w, cs = w ++ '}' :: rest ∧ Blanks w) ∨
      (more = true ∧ ∃ w w', cs = w ++ ',' :: (w' ++ '"' :: rest) ∧ Blanks w ∧ Blanks w') := by
  unfold nextKey at h
  split at h
  · cases h
  · next c r hb =>
    obtain ⟨w, rfl, hw, -⟩ := Json.eq_of_skipBlanks hb
    split at h
    · next hc =>
      cases h
      rw [hc]
      exact .inl ⟨rfl, w, rfl, hw⟩
    · split at h
      · next hc =>
        split at h
        · cases h
        · next c' r' hb' =>
          obtain ⟨w', rfl, hw', -⟩ := Json.eq_of_skipBlanks hb'
          split at h
          · next hc' =>
            cases h
            rw [hc, hc']
            exact .inr ⟨rfl, w, w', rfl, hw, hw'⟩
          · split at h <;> cases h
      · cases h

/-- A member behind the quote of its key is read exactly as what it adds. -/
theorem readMember_eq_ok_iff {key : String} {k w₁ w₂ : List Char} (hk : Spells key.toList k)
    (hw₁ : Blanks w₁) (hw₂ : Blanks w₂) (hv : IsValue v) (hrest : EndsNumber rest) :
    readMember d (k ++ '"' :: (w₁ ++ ':' :: (w₂ ++ (v ++ rest)))) = .ok (d', r) ↔
      Adds [(key, v)] d d' ∧ r = rest := by
  rw [readMember, Json.readString_of_spells hk]
  dsimp only
  rw [String.ofList_toList, readColon_blanks hw₁, Adds]
  cases hkey : Field.ofName? key with
  | none =>
    dsimp only [Except.bind]
    rw [Json.skip_of_value hw₂ hv hrest]
    simp [Except.map, Adds, eq_comm]
  | some f =>
    dsimp only [Except.bind]
    rw [Draft.has_eq, readField_eq]
    cases hfree : d.get f with
    | some y => simp
    | none =>
      simp only [Option.isSome_none, Bool.false_eq_true, if_false, Except.map_eq_ok_iff,
        Prod.exists, readValue_eq_ok_iff hw₂ hv hrest, Prod.mk.injEq, true_and, Adds]
      constructor
      · rintro ⟨x, _, ⟨hmeans, rfl⟩, rfl, rfl⟩
        exact ⟨⟨x, hmeans, rfl⟩, rfl⟩
      · rintro ⟨⟨x, hmeans, rfl⟩, rfl⟩
        exact ⟨x, _, ⟨hmeans, rfl⟩, rfl, rfl⟩

theorem member_of_readMember (h : readMember d cs = .ok (d', rest)) :
    ∃ key k w₁ w₂ v, cs = k ++ '"' :: (w₁ ++ ':' :: (w₂ ++ (v ++ rest))) ∧
      Spells (String.toList key) k ∧ Blanks w₁ ∧ Blanks w₂ ∧ IsValue v := by
  unfold readMember at h
  split at h
  · cases h
  · next s rest' hread =>
    obtain ⟨k, rfl, hk⟩ := Json.spells_of_readString hread
    have hs : Spells (String.toList (String.ofList s)) k := by rwa [String.toList_ofList]
    split at h
    · next f _ =>
      split at h
      · cases h
      · obtain ⟨mid, hcolon, hfield⟩ := Except.bind_eq_ok_iff.1 h
        obtain ⟨w₁, rfl, hw₁⟩ := colon_of_readColon hcolon
        rw [readField_eq] at hfield
        obtain ⟨⟨x, r⟩, hvalue, heq⟩ := Except.map_eq_ok_iff.1 hfield
        cases heq
        obtain ⟨w₂, v, rfl, hw₂, hv, -⟩ := means_of_readValue hvalue
        exact ⟨_, k, w₁, w₂, v, rfl, hs, hw₁, hw₂, isValue_of_means hv⟩
    · obtain ⟨r, hskip, heq⟩ := Except.map_eq_ok_iff.1 h
      cases heq
      obtain ⟨mid, hcolon, hpassed⟩ := Except.bind_eq_ok_iff.1 hskip
      obtain ⟨w₁, rfl, hw₁⟩ := colon_of_readColon hcolon
      obtain ⟨w₂, v, rfl, hw₂, hv⟩ := Json.value_of_skip hpassed
      exact ⟨_, k, w₁, w₂, v, rfl, hs, hw₁, hw₂, hv⟩

theorem readMembers_eq (d : Draft) (cs : List Char) :
    readMembers d cs = (readMember d cs).bind fun (d, rest) =>
      (nextKey rest).bind fun (more, rest) =>
        if more then readMembers d rest else .ok (d, rest) := by
  rw [readMembers]
  split
  · next h => simp only [h, Except.bind]
  · next h =>
    simp only [h, Except.bind]
    split <;> next h' => simp only [h', reduceIte, Bool.false_eq_true]

/-- What a member adds is added before the others are read. -/
theorem readMembers_eq_ok_iff {m : String × List Char} {mid : List Char}
    (h : ∀ d₁ r₁, readMember d cs = .ok (d₁, r₁) ↔ Adds [m] d d₁ ∧ r₁ = mid)
    (hnext : nextKey mid = .ok (more, rest)) :
    readMembers d cs = .ok (d', r) ↔ ∃ d₁, Adds [m] d d₁ ∧
      (if more then readMembers d₁ rest else .ok (d₁, rest)) = .ok (d', r) := by
  rw [readMembers_eq, Except.bind_eq_ok_iff]
  constructor
  · rintro ⟨⟨d₁, r₁⟩, hmember, hmore⟩
    obtain ⟨hadds, rfl⟩ := (h d₁ r₁).1 hmember
    refine ⟨d₁, hadds, ?_⟩
    dsimp only at hmore
    rwa [hnext] at hmore
  · rintro ⟨d₁, hadds, hmore⟩
    refine ⟨(d₁, mid), (h d₁ mid).2 ⟨hadds, rfl⟩, ?_⟩
    dsimp only
    rwa [hnext]

/-- Members, of which the first one stands behind the quote of its key, are read exactly as what
they add. -/
theorem adds_of_members (h : Separated IsMember ms es) :
    ∃ w body, es = w ++ '"' :: body ∧ Blanks w ∧ ∀ d d' rest r,
      readMembers d (body ++ '}' :: rest) = .ok (d', r) ↔ Adds ms d d' ∧ r = rest := by
  induction h with
  | one he =>
    cases he with
    | @mk key k v w w₁ w₂ w' hw hk hw₁ hw₂ hv hw' =>
      refine ⟨w, _, rfl, hw, fun d d' rest r => ?_⟩
      have hends : EndsNumber (w' ++ '}' :: rest) :=
        Json.endsNumber_closing (b := .object).blanks hw'
      simp only [List.append_assoc, List.cons_append]
      rw [readMembers_eq_ok_iff (fun _ _ => readMember_eq_ok_iff hk hw₁ hw₂ hv hends)
        (nextKey_closing hw')]
      constructor
      · rintro ⟨d₁, hadds, heq⟩
        cases heq
        exact ⟨hadds, rfl⟩
      · rintro ⟨hadds, rfl⟩
        exact ⟨d', hadds, rfl⟩
  | @more m ms e es he hes ih =>
    obtain ⟨w'', body, rfl, hw'', hbody⟩ := ih
    cases he with
    | @mk key k v w w₁ w₂ w' hw hk hw₁ hw₂ hv hw' =>
      refine ⟨w, k ++ '"' :: (w₁ ++ ':' :: (w₂ ++ (v ++ (w' ++ ',' :: (w'' ++ '"' :: body))))),
        by simp, hw, fun d d' rest r => ?_⟩
      have hends : EndsNumber (w' ++ ',' :: (w'' ++ '"' :: (body ++ '}' :: rest))) :=
        Json.endsNumber_comma.blanks hw'
      simp only [List.append_assoc, List.cons_append]
      rw [readMembers_eq_ok_iff (fun _ _ => readMember_eq_ok_iff hk hw₁ hw₂ hv hends)
        (nextKey_comma hw' hw''), adds_cons]
      simp only [if_true, hbody, ← and_assoc, exists_and_right]

/-- What is read as members is members. -/
theorem members_of_readMembers (h : readMembers d cs = .ok (d', rest)) :
    ∃ ms es, '"' :: cs = es ++ '}' :: rest ∧ Separated IsMember ms es := by
  have found : ∀ {key : String} {k w₁ w₂ v w : List Char}, Spells key.toList k → Blanks w₁ →
      Blanks w₂ → IsValue v → Blanks w →
      IsMember (key, v) ('"' :: (k ++ '"' :: (w₁ ++ ':' :: (w₂ ++ (v ++ w))))) := by
    intro key k w₁ w₂ v w hk hw₁ hw₂ hv hw
    exact .mk Blanks.nil hk hw₁ hw₂ hv hw
  fun_induction readMembers d cs generalizing d' rest with
  | case1 => cases h
  | case2 => cases h
  | case3 d cs d₁ r₁ hmember r₂ hnext =>
    cases h
    obtain ⟨key, k, w₁, w₂, v, rfl, hk, hw₁, hw₂, hv⟩ := member_of_readMember hmember
    rcases cases_of_nextKey hnext with ⟨-, w, rfl, hw⟩ | ⟨hmore, -⟩
    · exact ⟨_, _, by simp, .one (found hk hw₁ hw₂ hv hw)⟩
    · cases hmore
  | case4 d cs d₁ r₁ hmember r₂ hnext _ _ ih =>
    obtain ⟨key, k, w₁, w₂, v, rfl, hk, hw₁, hw₂, hv⟩ := member_of_readMember hmember
    rcases cases_of_nextKey hnext with ⟨hmore, -⟩ | ⟨-, w, w', rfl, hw, hw'⟩
    · cases hmore
    · obtain ⟨ms, es, hes, hms⟩ := ih h
      refine ⟨_, _, ?_, .more (found hk hw₁ hw₂ hv hw)
        (Json.separated_blanks (Json.isMember_blanks hw') hms)⟩
      simp [hes]

end OfJson

end Liveness.Config
