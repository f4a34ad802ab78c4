import Mathlib.Data.Finset.Card
import Mathlib.Data.List.Sort
import Liveness.Proofs.Check.Results
import Liveness.Proofs.Json.Layouts

/-! Results as they are collected from pairs of a name and an outcome: they hold the last pair
of each name and nothing else, in the one order that the names have, so that they are the same
however the pairs came to be listed. -/

namespace Liveness.Check

open Text

variable {pairs others : List Entry} {n : String} {b : Bool}

/-- The last pair of the name `n` has the outcome `b`. -/
def IsLast (n : String) (b : Bool) (pairs : List Entry) : Prop :=
  ∃ before after, pairs = before ++ (n, b) :: after ∧ ∀ p ∈ after, p.1 ≠ n

/-- The same names, with the same outcomes in their last pairs. -/
def SameLasts (pairs others : List Entry) : Prop := ∀ n b, IsLast n b pairs ↔ IsLast n b others

/-- What there is to be seen of results that hold the last pair of each name. -/
structure Collects (pairs : List Entry) (r : Results) : Prop where
  ascending : r.entries.Pairwise fun e e' => Utf8.encode e.1 < Utf8.encode e'.1
  names : ∀ n, n ∈ r.entries.map (·.1) ↔ n ∈ pairs.map (·.1)
  entries : ∀ n b, (n, b) ∈ r.entries ↔ IsLast n b pairs
  found : ∀ n b, r.get? n = some b ↔ IsLast n b pairs
  absent : ∀ n, r.get? n = none ↔ n ∉ pairs.map (·.1)
  size : r.size = (pairs.map (·.1)).toFinset.card
  isEmpty : r.isEmpty = true ↔ pairs = []
  passed : r.passed = true ↔ pairs ≠ [] ∧ ∀ n b, IsLast n b pairs → b = true

/-- A last pair is the last one among those of its name. -/
theorem isLast_iff_filter :
    IsLast n b pairs ↔ ∃ earlier, pairs.filter (·.1 = n) = earlier ++ [(n, b)] := by
  constructor
  · rintro ⟨before, after, rfl, hafter⟩
    have hnone : after.filter (·.1 = n) = [] := by simpa using hafter
    exact ⟨before.filter (·.1 = n), by simp [hnone]⟩
  · rintro ⟨earlier, h⟩
    obtain ⟨before, rest, rfl, -, hrest⟩ := List.filter_eq_append_iff.1 h
    obtain ⟨between, after, rfl, -, -, hafter⟩ := List.filter_eq_cons_iff.1 hrest
    exact ⟨before ++ between, after, by rw [List.append_assoc], by simpa using hafter⟩

theorem sameLasts_of_filter (h : ∀ n, pairs.filter (·.1 = n) = others.filter (·.1 = n)) :
    SameLasts pairs others := by
  intro n b
  rw [isLast_iff_filter, h n, ← isLast_iff_filter]

/-- Of pairs with different names each is a last one. -/
theorem isLast_iff_mem (h : (pairs.map (·.1)).Nodup) : IsLast n b pairs ↔ (n, b) ∈ pairs := by
  constructor
  · rintro ⟨before, after, rfl, -⟩
    exact List.mem_append_right _ List.mem_cons_self
  · intro hm
    obtain ⟨before, after, rfl⟩ := List.append_of_mem hm
    rw [List.map_append, List.nodup_append, List.map_cons, List.nodup_cons] at h
    exact ⟨before, after, rfl, fun p hp hn => h.2.1.1 (List.mem_map.2 ⟨p, hp, hn⟩)⟩

namespace Results

theorem get?_ofList_eq_some_iff : (ofList pairs).get? n = some b ↔ IsLast n b pairs := by
  rw [get?_ofList, List.lookup_eq_some_iff]
  constructor
  · rintro ⟨after, before, h, hafter⟩
    rw [List.reverse_eq_iff] at h
    refine ⟨before.reverse, after.reverse, by simp [h], fun p hp => ?_⟩
    exact (bne_iff_ne.1 (hafter p (List.mem_reverse.1 hp))).symm
  · rintro ⟨before, after, rfl, hafter⟩
    refine ⟨after.reverse, before.reverse, by simp, fun p hp => ?_⟩
    exact bne_iff_ne.2 (hafter p (List.mem_reverse.1 hp)).symm

theorem get?_ofList_eq_none_iff : (ofList pairs).get? n = none ↔ n ∉ pairs.map (·.1) := by
  rw [get?_ofList, List.lookup_eq_none_iff, List.mem_map]
  constructor
  · rintro h ⟨p, hp, rfl⟩
    exact bne_iff_ne.1 (h p (List.mem_reverse.2 hp)) rfl
  · intro h p hp
    exact bne_iff_ne.2 fun hn => h ⟨p, List.mem_reverse.1 hp, hn.symm⟩

theorem get?_ofList_append (pairs others : List Entry) (n : String) :
    (ofList (pairs ++ others)).get? n = ((ofList others).get? n).or ((ofList pairs).get? n) := by
  rw [get?_ofList, get?_ofList, get?_ofList, List.reverse_append, List.lookup_append]

/-- Results are told by what is looked up, as their entries have one order only. -/
theorem ext_get? {r r' : Results} (h : ∀ n, r.get? n = r'.get? n) : r = r' := by
  have hmem : ∀ e, e ∈ r.entries ↔ e ∈ r'.entries := fun e => by
    rw [← get?_eq_some_iff, h, get?_eq_some_iff]
  -- lists of the same entries that both ascend are one
  have hperm := (List.perm_ext_iff_of_nodup r.nodup_names.of_map r'.nodup_names.of_map).2 hmem
  have hentries : r.entries = r'.entries :=
    hperm.eq_of_pairwise (fun _ _ _ _ hab hba => absurd (nameBefore_trans hab hba) (by
      simp [nameBefore, Bytes.before_irrefl])) r.ascending r'.ascending
  cases r
  cases r'
  cases hentries
  rfl

theorem ofList_eq_iff : ofList pairs = ofList others ↔ SameLasts pairs others := by
  constructor
  · intro h n b
    rw [← get?_ofList_eq_some_iff, h, get?_ofList_eq_some_iff]
  · intro h
    refine ext_get? fun n => Option.ext fun b => ?_
    rw [get?_ofList_eq_some_iff, h n b, get?_ofList_eq_some_iff]

theorem ofList_entries (r : Results) : ofList r.entries = r := by
  refine ext_get? fun n => Option.ext fun b => ?_
  rw [get?_ofList_eq_some_iff, isLast_iff_mem r.nodup_names, get?_eq_some_iff]

theorem toJson_inj {r r' : Results} : r.toJson = r'.toJson ↔ r = r' := by
  refine ⟨fun h => ?_, fun h => h ▸ rfl⟩
  have hinj : Function.Injective fun e : Entry => (e.1, Json.Value.bool e.2) := by
    rintro ⟨n, b⟩ ⟨n', b'⟩ h
    cases h
    rfl
  have hentries := hinj.list_map (Json.Value.object.inj h)
  rw [← ofList_entries r, hentries, ofList_entries r']

theorem mem_names_iff (r : Results) : n ∈ r.entries.map (·.1) ↔ r.get? n ≠ none := by
  rw [List.mem_map, Option.ne_none_iff_exists']
  constructor
  · rintro ⟨e, he, rfl⟩
    exact ⟨e.2, (get?_eq_some_iff r e.1 e.2).2 he⟩
  · rintro ⟨b, hb⟩
    exact ⟨(n, b), (get?_eq_some_iff r n b).1 hb, rfl⟩

theorem mem_names_ofList : n ∈ (ofList pairs).entries.map (·.1) ↔ n ∈ pairs.map (·.1) := by
  rw [mem_names_iff, ne_eq, get?_ofList_eq_none_iff, not_not]

theorem size_ofList (pairs : List Entry) :
    (ofList pairs).size = (pairs.map (·.1)).toFinset.card := by
  have hnames : (pairs.map (·.1)).toFinset = ((ofList pairs).entries.map (·.1)).toFinset := by
    ext n
    rw [List.mem_toFinset, List.mem_toFinset, mem_names_ofList]
  rw [hnames, List.toFinset_card_of_nodup (nodup_names _), List.length_map, size]

theorem isEmpty_ofList_iff : (ofList pairs).isEmpty = true ↔ pairs = [] := by
  rw [isEmpty, List.isEmpty_iff, ← List.map_eq_nil_iff (f := fun e : Entry => e.1),
    List.eq_nil_iff_forall_not_mem]
  simp only [mem_names_ofList]
  rw [← List.eq_nil_iff_forall_not_mem, List.map_eq_nil_iff]

theorem passed_ofList_iff :
    (ofList pairs).passed = true ↔ pairs ≠ [] ∧ ∀ n b, IsLast n b pairs → b = true := by
  rw [passed, Bool.and_eq_true, Bool.not_eq_true', ← Bool.not_eq_true, isEmpty_ofList_iff,
    List.all_eq_true]
  refine and_congr_right fun _ => ⟨fun h n b hb => ?_, fun h e he => ?_⟩
  · exact h _ ((get?_eq_some_iff _ n b).1 (get?_ofList_eq_some_iff.2 hb))
  · exact h e.1 e.2 (get?_ofList_eq_some_iff.1 ((get?_eq_some_iff _ e.1 e.2).2 he))

theorem collects_ofList (pairs : List Entry) : Collects pairs (ofList pairs) where
  ascending := (ofList pairs).ascending.imp Bytes.before_iff_lt.1
  names _ := mem_names_ofList
  entries n b := by rw [← get?_eq_some_iff, get?_ofList_eq_some_iff]
  found _ _ := get?_ofList_eq_some_iff
  absent _ := get?_ofList_eq_none_iff
  size := size_ofList pairs
  isEmpty := isEmpty_ofList_iff
  passed := passed_ofList_iff

/-- The law of collected results. They hold the last pair of each name and nothing else, in the
order of the names' bytes; they are equal, as values and as texts, exactly if the last pairs are
the same, so that neither the order of pairs of different names nor repeating them counts. -/
theorem collected_results :
    (∀ pairs, Collects pairs (ofList pairs)) ∧
    (∀ pairs others, (ofList pairs = ofList others ↔ SameLasts pairs others) ∧
      ((ofList pairs).toJson.compact = (ofList others).toJson.compact ↔ SameLasts pairs others) ∧
      ((ofList pairs).toJson.pretty = (ofList others).toJson.pretty ↔ SameLasts pairs others)) ∧
    (∀ pairs others : List Entry, (∀ n, pairs.filter (·.1 = n) = others.filter (·.1 = n)) →
      ofList pairs = ofList others) ∧
    ∀ pairs, ofList (pairs ++ pairs) = ofList pairs ∧
      ofList (pairs ++ (ofList pairs).entries) = ofList pairs ∧
      ofList (ofList pairs).entries = ofList pairs := by
  refine ⟨collects_ofList, fun pairs others => ⟨ofList_eq_iff, ?_, ?_⟩, fun pairs others h =>
    ofList_eq_iff.2 (sameLasts_of_filter h), fun pairs => ⟨ext_get? fun n => ?_,
    ext_get? fun n => ?_, ofList_entries _⟩⟩
  · rw [Json.Value.compact_inj, toJson_inj, ofList_eq_iff]
  · rw [Json.Value.pretty_inj, toJson_inj, ofList_eq_iff]
  · rw [get?_ofList_append, Option.or_self]
  · rw [get?_ofList_append, ofList_entries, Option.or_self]

/-- An outcome changes places with one of another name and stays the last of its own; before
the other one of its own name it would not. -/
theorem collected_results_swapped :
    (∀ n, [("b", true), ("a", false), ("b", false)].filter (·.1 = n) =
      [("b", true), ("b", false), ("a", false)].filter (·.1 = n)) ∧
    ofList [("b", true), ("a", false), ("b", false)] =
      ofList [("b", true), ("b", false), ("a", false)] ∧
    (ofList [("b", true), ("a", false), ("b", false)]).toJson.compact ≠
      (ofList [("b", false), ("a", false), ("b", true)]).toJson.compact := by
  obtain ⟨hcollects, hsame, horder, -⟩ := collected_results
  have hfilter : ∀ n, [("b", true), ("a", false), ("b", false)].filter (·.1 = n) =
      [("b", true), ("b", false), ("a", false)].filter (·.1 = n) := by
    intro n
    by_cases ha : "a" = n
    · subst ha
      rfl
    · simp [List.filter_cons, ha]
  refine ⟨hfilter, horder _ _ hfilter, fun h => ?_⟩
  have hfirst := ((hcollects [("b", true), ("a", false), ("b", false)]).found "b" false).1 rfl
  have hsecond := ((hcollects _).found "b" false).2 (((hsame _ _).2.1.1 h "b" false).1 hfirst)
  cases hsecond

end Results

end Liveness.Check
