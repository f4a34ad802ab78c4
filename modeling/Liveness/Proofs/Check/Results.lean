import Liveness.Check.Results
import Mathlib.Logic.Basic

/-! Results as a map: what is looked up is what was put in last, and the entries are what
can be looked up. -/

namespace Liveness.Check.Results

theorem ne_of_nameBefore {a b : String} (h : nameBefore a b = true) : a ≠ b := by
  rintro rfl
  rw [nameBefore, Text.Bytes.before_irrefl] at h
  cases h

theorem nodup_names (r : Results) : (r.entries.map (·.1)).Nodup := by
  rw [List.Nodup, List.pairwise_map]
  exact r.ascending.imp ne_of_nameBefore

theorem find?_insertEntry (name : String) (ok : Bool) (es : List Entry) (n : String) :
    (insertEntry name ok es).find? (fun e => e.1 = n) =
      if name = n then some (name, ok) else es.find? fun e => e.1 = n := by
  induction es with
  | nil => by_cases h : name = n <;> simp [insertEntry, h]
  | cons x rest ih =>
    obtain ⟨k, b⟩ := x
    rw [insertEntry]
    by_cases hk : name = k
    · subst hk
      by_cases h : name = n <;> simp [h]
    · rw [if_neg hk]
      split
      · by_cases h : name = n <;> simp [h]
      · rw [List.find?_cons, ih]
        by_cases h : name = n
        · have hkn : k ≠ n := fun e => hk (h.trans e.symm)
          simp [h, hkn]
        · simp [List.find?_cons, h]

theorem get?_insert (r : Results) (name : String) (ok : Bool) (n : String) :
    (r.insert name ok).get? n = if name = n then some ok else r.get? n := by
  rw [get?, insert, find?_insertEntry]
  split <;> rfl

/-- Looking up gives the outcome that was listed last under a name. -/
theorem get?_ofList (pairs : List Entry) (n : String) :
    (ofList pairs).get? n = pairs.reverse.lookup n := by
  have key : ∀ (r : Results), (pairs.foldl (fun r p => r.insert p.1 p.2) r).get? n =
      (pairs.reverse.lookup n).or (r.get? n) := by
    induction pairs with
    | nil => exact fun r => rfl
    | cons p rest ih =>
      obtain ⟨k, b⟩ := p
      intro r
      rw [List.foldl_cons, ih, List.reverse_cons, List.lookup_append, Option.or_assoc,
        get?_insert, List.lookup_cons]
      by_cases h : k = n
      · simp [h]
      · have hn : (n == k) = false := by simpa using fun e : n = k => h e.symm
        simp [h, hn]
  rw [ofList, key]
  exact Option.or_none

/-- Every entry is found under its name, as no other has it. -/
theorem get?_eq_some_iff (r : Results) (n : String) (b : Bool) :
    r.get? n = some b ↔ (n, b) ∈ r.entries := by
  obtain ⟨es, hes⟩ := r
  simp only [get?, Option.map_eq_some_iff]
  constructor
  · rintro ⟨e, he, rfl⟩
    have hn : e.1 = n := by simpa using List.find?_some he
    exact hn ▸ List.mem_of_find?_eq_some he
  · intro hm
    refine ⟨(n, b), ?_, rfl⟩
    induction es with
    | nil => simp at hm
    | cons x rest ih =>
      rw [Ascending, List.pairwise_cons] at hes
      rcases List.mem_cons.1 hm with rfl | hm
      · simp
      · -- an entry before it with its name would be listed before itself
        have hx : x.1 ≠ n := ne_of_nameBefore (hes.1 _ hm)
        rw [List.find?_cons]
        simpa [hx] using ih hes.2 hm

theorem entries_eq_nil_iff (r : Results) : r.entries = [] ↔ ∀ n, r.get? n = none := by
  constructor
  · intro h n
    simp [get?, h]
  · intro h
    rw [List.eq_nil_iff_forall_not_mem]
    rintro ⟨n, b⟩ hm
    rw [← get?_eq_some_iff, h n] at hm
    cases hm

/-- Results pass if something can be looked up and nothing of that is a failure. -/
theorem passed_iff (r : Results) :
    r.passed = true ↔ (∃ n, r.get? n ≠ none) ∧ ∀ n, r.get? n ≠ some false := by
  have hempty : r.entries.isEmpty = false ↔ ∃ n, r.get? n ≠ none := by
    rw [List.isEmpty_eq_false_iff, ne_eq, entries_eq_nil_iff, not_forall]
  rw [passed, Bool.and_eq_true, Bool.not_eq_true', isEmpty, hempty, List.all_eq_true]
  refine and_congr_right fun _ => ⟨fun h n hn => ?_, fun h e he => ?_⟩
  · have := h _ ((get?_eq_some_iff r n false).1 hn)
    simp at this
  · obtain ⟨n, b⟩ := e
    cases b with
    | true => rfl
    | false => exact absurd ((get?_eq_some_iff r n false).2 he) (h n)

end Liveness.Check.Results
