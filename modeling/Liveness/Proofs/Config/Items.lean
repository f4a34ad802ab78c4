import Liveness.Proofs.Config.Members

/-! Reading the items of a list: they give the fields in their order, as members of these names
would, and there are no more of them than there are fields. -/

namespace Liveness.Config

open Liveness.Json (Begins Blanks EndsNumber IsItem IsValue Separated skipBlanks)

/-- Values as the members that have the names of these fields. -/
def named (fs : List Field) (vs : List (List Char)) : List (String × List Char) :=
  (fs.map Field.name).zip vs

namespace OfJson

variable {d d' : Draft} {f : Field} {fs : List Field} {c : Char}
variable {cs es r rest v w : List Char} {vs : List (List Char)} {more : Bool}

/-- The items of a list for these fields, and its end. -/
def readRest (d : Draft) (fs : List Field) (cs : List Char) :
    Except Json.Error (Draft × List Char) :=
  (readItems d fs cs).bind fun p => (endList p.2).map fun rest => (p.1, rest)

/-- The same behind an item. -/
def readOn (d : Draft) (fs : List Field) (cs : List Char) :
    Except Json.Error (Draft × List Char) :=
  if fs = [] then (endList cs).map fun rest => (d, rest)
  else (nextItem cs).bind fun p =>
    if p.1 then readRest d fs p.2 else (endList p.2).map fun rest => (d, rest)

theorem readRest_cons (d : Draft) (f : Field) (fs : List Field) (cs : List Char) :
    readRest d (f :: fs) cs =
      (readValue f cs).bind fun p => readOn (d.set f p.1) fs p.2 := by
  rw [readRest, readItems, readField_eq]
  cases readValue f cs with
  | error e => rfl
  | ok p =>
    rcases eq_or_ne fs [] with rfl | hfs
    · rfl
    · simp only [Except.map, Except.bind, readOn, hfs, if_false]
      cases nextItem p.2 with
      | error e => rfl
      | ok q =>
        obtain ⟨more, r⟩ := q
        cases more <;> rfl

theorem endList_closing (hw : Blanks w) : endList (w ++ ']' :: cs) = .ok cs := by
  rw [endList, Json.skipBlanks_append_cons hw rfl]
  exact if_pos rfl

theorem closing_of_endList (h : endList cs = .ok rest) :
    ∃ w, cs = w ++ ']' :: rest ∧ Blanks w := by
  unfold endList at h
  split at h
  · cases h
  · next c r hb =>
    obtain ⟨w, rfl, hw, -⟩ := Json.eq_of_skipBlanks hb
    split at h
    · next hc =>
      cases h
      rw [hc]
      exact ⟨w, rfl, hw⟩
    · split at h
      · split at h <;> cases h
      · cases h

theorem nextItem_closing (hw : Blanks w) :
    nextItem (w ++ ']' :: cs) = .ok (false, ']' :: cs) := by
  rw [nextItem, Json.skipBlanks_append_cons hw rfl]
  exact if_pos rfl

theorem nextItem_comma {w' : List Char} (hw : Blanks w) (hw' : Blanks w') (hc : Begins c) :
    nextItem (w ++ ',' :: (w' ++ c :: cs)) = .ok (true, c :: cs) := by
  rw [nextItem, Json.skipBlanks_append_cons hw rfl]
  dsimp only
  rw [if_neg (by decide), if_pos rfl, Json.skipBlanks_append_cons hw' hc.blank]
  exact if_neg hc.list

theorem cases_of_nextItem (h : nextItem cs = .ok (more, rest)) :
    (more = false ∧ ∃ w r, cs = w ++ rest ∧ rest = ']' :: r ∧ Blanks w) ∨
      (more = true ∧ ∃ w w', cs = w ++ ',' :: (w' ++ rest) ∧ Blanks w ∧ Blanks w') := by
  unfold nextItem at h
  split at h
  · cases h
  · next c r hb =>
    obtain ⟨w, rfl, hw, -⟩ := Json.eq_of_skipBlanks hb
    split at h
    · next hc =>
      cases h
      rw [hc]
      exact .inl ⟨rfl, w, r, rfl, rfl, hw⟩
    · split at h
      · next hc =>
        split at h
        · cases h
        · next c' r' hb' =>
          obtain ⟨w', rfl, hw', -⟩ := Json.eq_of_skipBlanks hb'
          split at h
          · cases h
          · cases h
            rw [hc]
            exact .inr ⟨rfl, w, w', rfl, hw, hw'⟩
      · cases h

theorem readOn_closing (hw : Blanks w) : readOn d fs (w ++ ']' :: cs) = .ok (d, cs) := by
  rw [readOn]
  split
  · rw [endList_closing hw]
    rfl
  · rw [nextItem_closing hw]
    change (endList (']' :: cs)).map (fun rest => (d, rest)) = _
    rw [← List.nil_append (']' :: cs), endList_closing Blanks.nil]
    rfl

theorem readOn_comma {w' : List Char} (hw : Blanks w) (hw' : Blanks w') (hc : Begins c)
    (hfs : fs ≠ []) : readOn d fs (w ++ ',' :: (w' ++ c :: cs)) = readRest d fs (c :: cs) := by
  rw [readOn, if_neg hfs, nextItem_comma hw hw' hc]
  rfl

/-- Behind an item a list ends, or goes on as long as there are fields. -/
theorem cases_of_readOn (h : readOn d fs cs = .ok (d', rest)) :
    (∃ w, cs = w ++ ']' :: rest ∧ Blanks w) ∨
      (fs ≠ [] ∧ ∃ w w' r, cs = w ++ ',' :: (w' ++ r) ∧ Blanks w ∧ Blanks w' ∧
        readRest d fs r = .ok (d', rest)) := by
  rw [readOn] at h
  split at h
  · obtain ⟨r, hend, heq⟩ := Except.map_eq_ok_iff.1 h
    cases heq
    exact .inl (closing_of_endList hend)
  · next hfs =>
    obtain ⟨⟨more, r⟩, hnext, hgo⟩ := Except.bind_eq_ok_iff.1 h
    rcases cases_of_nextItem hnext with ⟨rfl, w, r', rfl, rfl, hw⟩ | ⟨rfl, w, w', rfl, hw, hw'⟩
    · rw [if_neg Bool.false_ne_true] at hgo
      obtain ⟨r, hend, heq⟩ := Except.map_eq_ok_iff.1 hgo
      cases heq
      rw [← List.nil_append (']' :: r'), endList_closing Blanks.nil] at hend
      cases hend
      exact .inl ⟨w, rfl, hw⟩
    · exact .inr ⟨hfs, w, w', r, rfl, hw, hw', hgo⟩

theorem readOn_nil_comma {p : Draft × List Char} (hw : Blanks w) :
    readOn d [] (w ++ ',' :: cs) ≠ .ok p := by
  intro h
  rcases cases_of_readOn h with ⟨w', heq, hw'⟩ | ⟨hfs, -⟩
  · have hsame := congrArg skipBlanks heq
    rw [Json.skipBlanks_append_cons hw rfl, Json.skipBlanks_append_cons hw' rfl] at hsame
    cases hsame
  · exact hfs rfl

/-- An item for the first field that is free. -/
theorem readRest_eq_ok_iff {w' : List Char} (hv : IsValue v) (hw' : Blanks w')
    (hrest : EndsNumber rest) :
    readRest d (f :: fs) (v ++ (w' ++ rest)) = .ok (d', r) ↔
      ∃ x, Means f v x ∧ readOn (d.set f x) fs (w' ++ rest) = .ok (d', r) := by
  have hvalue := fun x r => readValue_eq_ok_iff (f := f) (x := x) (r := r) Blanks.nil hv
    (hrest.blanks hw')
  rw [readRest_cons, Except.bind_eq_ok_iff]
  constructor
  · rintro ⟨⟨x, r₁⟩, hread, hon⟩
    obtain ⟨hmeans, rfl⟩ := (hvalue x r₁).1 hread
    exact ⟨x, hmeans, hon⟩
  · rintro ⟨x, hmeans, hon⟩
    exact ⟨(x, w' ++ rest), (hvalue x _).2 ⟨hmeans, rfl⟩, hon⟩

theorem adds_named_iff {vs : List (List Char)} (hfree : d.get f = none) :
    Adds (named (f :: fs) (v :: vs)) d d' ↔
      ∃ x, Means f v x ∧ Adds (named fs vs) (d.set f x) d' := by
  simp [named, Adds, hfree]

/-- The text is read for fields that are free exactly as what values add as members of these
names, of which there are enough. -/
def ReadAsItems (vs : List (List Char)) (cs : List Char) : Prop :=
  ∀ (d d' : Draft) (f : Field) (fs : List Field) (rest r : List Char), (f :: fs).Nodup →
    (∀ g ∈ f :: fs, d.get g = none) →
    (readRest d (f :: fs) (cs ++ ']' :: rest) = .ok (d', r) ↔
      (vs.length ≤ (f :: fs).length ∧ Adds (named (f :: fs) vs) d d') ∧ r = rest)

theorem readAsItems_one {w' : List Char} (hv : IsValue v) (hw' : Blanks w') :
    ReadAsItems [v] (v ++ w') := by
  intro d d' f fs rest r _ hfree
  rw [List.append_assoc]
  refine (readRest_eq_ok_iff hv hw' (Json.endsNumber_closing (b := .list))).trans ?_
  rw [adds_named_iff (hfree f List.mem_cons_self)]
  simp only [readOn_closing hw', Json.Bracket.closing, named, List.zip_nil_right, Adds]
  constructor
  · rintro ⟨x, hmeans, heq⟩
    cases heq
    exact ⟨⟨by simp, x, hmeans, rfl⟩, rfl⟩
  · rintro ⟨⟨-, x, hmeans, rfl⟩, rfl⟩
    exact ⟨x, hmeans, rfl⟩

theorem readAsItems_more {w' w₁ : List Char} (hv : IsValue v) (hw' : Blanks w') (hw₁ : Blanks w₁)
    (hc : Begins c) (hne : vs ≠ []) (hitems : ReadAsItems vs (c :: cs)) :
    ReadAsItems (v :: vs) (v ++ (w' ++ ',' :: (w₁ ++ c :: cs))) := by
  intro d d' f fs rest r hdup hfree
  have hsplit : v ++ (w' ++ ',' :: (w₁ ++ c :: cs)) ++ ']' :: rest =
      v ++ (w' ++ ',' :: (w₁ ++ c :: (cs ++ ']' :: rest))) := by simp
  rw [hsplit]
  refine (readRest_eq_ok_iff hv hw' Json.endsNumber_comma).trans ?_
  rw [adds_named_iff (hfree f List.mem_cons_self)]
  cases fs with
  | nil =>
    -- the fields are used up, and another item is one too many
    constructor
    · rintro ⟨x, -, hon⟩
      exact absurd hon (readOn_nil_comma hw')
    · rintro ⟨⟨hlen, -⟩, -⟩
      rw [List.length_cons, List.length_cons, List.length_nil] at hlen
      exact absurd (List.length_eq_zero_iff.1 (by omega)) hne
  | cons g fs =>
    have hothers : ∀ x, ∀ g' ∈ g :: fs, (d.set f x).get g' = none := by
      intro x g' hg'
      have hne : g' ≠ f := fun heq => (List.nodup_cons.1 hdup).1 (heq ▸ hg')
      rw [Draft.get_set_of_ne hne]
      exact hfree g' (List.mem_cons_of_mem f hg')
    have hread := fun x => hitems (d.set f x) d' g fs rest r (List.nodup_cons.1 hdup).2 (hothers x)
    simp only [List.cons_append] at hread
    simp only [readOn_comma hw' hw₁ hc (List.cons_ne_nil g fs), hread, List.length_cons,
      Nat.add_le_add_iff_right]
    constructor
    · rintro ⟨x, hmeans, ⟨hlen, hadds⟩, rfl⟩
      exact ⟨⟨hlen, x, hmeans, hadds⟩, rfl⟩
    · rintro ⟨⟨hlen, x, hmeans, hadds⟩, rfl⟩
      exact ⟨x, hmeans, ⟨hlen, hadds⟩, rfl⟩

/-- Items, of which the first one stands behind its blanks, are read exactly as what members of
the fields' names add. -/
theorem readAsItems_of_separated (h : Separated IsItem vs es) :
    vs ≠ [] ∧ ∃ w c body, es = w ++ c :: body ∧ Blanks w ∧ Begins c ∧
      ReadAsItems vs (c :: body) := by
  induction h with
  | one he =>
    cases he with
    | @mk w w' hw hv hw' =>
      obtain ⟨c, v', rfl, hc⟩ := Json.first_of_value hv
      exact ⟨List.cons_ne_nil _ _, w, c, v' ++ w', rfl, hw, hc, readAsItems_one hv hw'⟩
  | @more v vs e es he hes ih =>
    obtain ⟨hne, w₁, c₁, body, rfl, hw₁, hc₁, hitems⟩ := ih
    cases he with
    | @mk w w' hw hv hw' =>
      obtain ⟨c, v', rfl, hc⟩ := Json.first_of_value hv
      exact ⟨List.cons_ne_nil _ _, w, c, _, by simp, hw, hc,
        readAsItems_more hv hw' hw₁ hc₁ hne hitems⟩

/-- What is read as items is items. -/
theorem items_of_readRest (hfs : fs ≠ []) (h : readRest d fs cs = .ok (d', rest)) :
    ∃ vs es, cs = es ++ ']' :: rest ∧ Separated IsItem vs es := by
  induction fs generalizing d cs with
  | nil => exact absurd rfl hfs
  | cons f fs ih =>
    rw [readRest_cons] at h
    obtain ⟨⟨x, r⟩, hvalue, hon⟩ := Except.bind_eq_ok_iff.1 h
    obtain ⟨w, v, rfl, hw, hmeans, -⟩ := means_of_readValue hvalue
    have hv := isValue_of_means hmeans
    rcases cases_of_readOn hon with ⟨w', rfl, hw'⟩ | ⟨hfs, w', w'', r', rfl, hw', hw'', hrest⟩
    · exact ⟨[v], _, by simp, .one (.mk hw hv hw')⟩
    · obtain ⟨vs, es, rfl, hes⟩ := ih hfs hrest
      exact ⟨v :: vs, _, by simp,
        .more (.mk hw hv hw') (Json.separated_blanks (Json.isItem_blanks hw'') hes)⟩

end OfJson

end Liveness.Config
