import Liveness.Proofs.Environment.Keys

/-! Names that lead out of a list, and with that end the process. A negative index counts from the
end of its list, so what comes of it depends on what has been put there before; it leads out of
every list that is new. -/

namespace Liveness.Environment

/-- The index is negative, or too large for a list. -/
def Step.IsOut : Step → Prop
  | .member _ => False
  | .item i => i < 0 ∨ maxItems ≤ i

instance : DecidablePred Step.IsOut
  | .member _ => inferInstanceAs (Decidable False)
  | .item i => inferInstanceAs (Decidable (i < 0 ∨ maxItems ≤ i))

/-- The variable is one of ours, and has such an index in its name. -/
def LeadsOut (start : List Char) (v : String × String) : Prop :=
  ∃ name ∈ ownName? start v, ∃ s ∈ (readKey name).2, s.IsOut

instance (start : List Char) : DecidablePred (LeadsOut start) := fun v =>
  inferInstanceAs (Decidable (∃ name ∈ ownName? start v, ∃ s ∈ (readKey name).2, s.IsOut))

variable {start : List Char} {v w : String × String} {vs : List (String × String)}
  {value : String} {path : List Step}

theorem place?_of_not_isOut {i : Int} (h : ¬ (Step.item i).IsOut) (length : Nat) :
    place? length i = some i.toNat := by
  rw [Step.IsOut, not_or, Int.not_lt, Int.not_le] at h
  obtain ⟨n, rfl⟩ := Int.eq_ofNat_of_zero_le h.1
  exact if_pos (Int.ofNat_lt.1 h.2)

/-- A list that is new has no such item. -/
theorem place?_of_isOut {i : Int} (h : (Step.item i).IsOut) : place? 0 i = none := by
  cases i with
  | ofNat n =>
    rcases h with h | h
    · exact absurd h (Int.not_lt.2 (Int.natCast_nonneg n))
    · exact if_neg (Nat.not_lt.2 (Int.ofNat_le.1 h))
  | negSucc n => rw [place?, if_neg (Nat.not_lt_zero n)]

theorem put_ne_none (h : ∀ s ∈ path, ¬ s.IsOut) (t : Tree) : t.put value path ≠ none := by
  induction path generalizing t with
  | nil => exact Option.some_ne_none _
  | cons s path ih =>
    rw [List.forall_mem_cons] at h
    cases s with
    | member name =>
      rw [Tree.put, ne_eq, Option.map_eq_none_iff]
      exact ih h.2 _
    | item i =>
      rw [Tree.put, place?_of_not_isOut h.1, Option.bind_some, ne_eq, Option.map_eq_none_iff]
      exact ih h.2 _

/-- Where nothing has been put before, every list on the way is new. -/
theorem put_empty (h : ∃ s ∈ path, s.IsOut) : Tree.empty.put value path = none := by
  induction path with
  | nil =>
    obtain ⟨s, hs, -⟩ := h
    cases hs
  | cons s path ih =>
    simp only [List.mem_cons, exists_eq_or_imp] at h
    cases s with
    | member name =>
      rw [Tree.put, Option.map_eq_none_iff]
      exact ih (h.resolve_left id)
    | item i =>
      by_cases hi : (Step.item i).IsOut
      · rw [Tree.put, show Tree.empty.items.length = 0 from rfl, place?_of_isOut hi]
        rfl
      · rw [Tree.put, place?_of_not_isOut hi, Option.bind_some, Option.map_eq_none_iff]
        have hnew : (Tree.empty.items ++ List.replicate (i.toNat + 1 - Tree.empty.items.length)
            Tree.empty).getD i.toNat Tree.empty = Tree.empty := by
          simp [Tree.items, List.getD_eq_getElem?_getD]
        rw [hnew]
        exact ih (h.resolve_left hi)

theorem add_ne_none (h : ¬ LeadsOut start v) (t : Tree) : add start t v ≠ none := by
  rw [add]
  split
  · exact Option.some_ne_none t
  · next name hname =>
    apply put_ne_none
    rw [List.forall_mem_cons]
    exact ⟨id, fun s hs hout => h ⟨name, hname, s, hs, hout⟩⟩

theorem lastOnes_subset : lastOnes vs ⊆ vs := by
  induction vs with
  | nil => exact List.Subset.refl _
  | cons v vs ih =>
    rw [lastOnes]
    split
    · exact List.subset_cons_of_subset v ih
    · exact List.cons_subset_cons v ih

theorem foldlM_ne_none (h : ∀ v ∈ vs, ¬ LeadsOut start v) (t : Tree) :
    ∃ t', vs.foldlM (add start) t = some t' := by
  induction vs generalizing t with
  | nil => exact ⟨t, rfl⟩
  | cons v vs ih =>
    rw [List.forall_mem_cons] at h
    obtain ⟨t₁, ht₁⟩ := Option.ne_none_iff_exists'.1 (add_ne_none h.1 t)
    obtain ⟨t', ht'⟩ := ih h.2 t₁
    refine ⟨t', ?_⟩
    rw [List.foldlM_cons, ht₁]
    exact ht'

/-- Without such an index there is a place for every value. -/
theorem exists_tree? (h : ∀ v ∈ vs, ¬ LeadsOut start v) : ∃ t, tree? start vs = some t :=
  foldlM_ne_none (fun v hv => h v (lastOnes_subset hv)) _

theorem add_new (h : LeadsOut start v) : add start (.table []) v = none := by
  obtain ⟨name, hname, h⟩ := h
  rw [add, hname]
  exact Option.map_eq_none_iff.2 (put_empty h)

theorem leadsOut_congr (h : lowered v = lowered w) : LeadsOut start v ↔ LeadsOut start w := by
  rw [LeadsOut, LeadsOut, ownName?, ownName?, h]

/-- Variables of one name before others of other names are one variable before them. -/
theorem lastOnes_append {ws : List (String × String)} (hne : vs ≠ [])
    (hvs : ∀ w ∈ vs, lowered w = lowered v) (hws : ∀ w ∈ ws, lowered w ≠ lowered v) :
    ∃ w ∈ vs, lastOnes (vs ++ ws) = w :: lastOnes ws := by
  induction vs with
  | nil => exact absurd rfl hne
  | cons u vs ih =>
    rw [List.forall_mem_cons] at hvs
    rw [List.cons_append, lastOnes]
    split
    · next hlater =>
      obtain ⟨w, hw, heq⟩ := List.any_eq_true.1 hlater
      have hname : lowered w = lowered v := (of_decide_eq_true heq).trans hvs.1
      have hvsne : vs ≠ [] := by
        rintro rfl
        exact hws w hw hname
      obtain ⟨w, hw, heq⟩ := ih hvsne hvs.2
      exact ⟨w, List.mem_cons_of_mem u hw, heq⟩
    · next hlater =>
      have hnil : vs = [] := by
        rw [List.eq_nil_iff_forall_not_mem]
        intro w hw
        refine hlater (List.any_eq_true.2 ⟨w, List.mem_append_left ws hw, ?_⟩)
        exact decide_eq_true ((hvs.2 w hw).trans hvs.1.symm)
      subst hnil
      exact ⟨u, List.mem_cons_self, rfl⟩

/-- Put first, such an index leads out of its list. -/
theorem exists_perm_of_leadsOut (hv : v ∈ vs) (h : LeadsOut start v) :
    ∃ ws, ws.Perm vs ∧ tree? start ws = none := by
  refine ⟨_, List.filter_append_perm (fun w => decide (lowered w = lowered v)) vs, ?_⟩
  obtain ⟨w, hw, heq⟩ := @lastOnes_append v
    (vs.filter fun w => decide (lowered w = lowered v))
    (vs.filter fun w => !decide (lowered w = lowered v))
    (List.ne_nil_of_mem (List.mem_filter.2 ⟨hv, decide_eq_true rfl⟩))
    (fun w hw => of_decide_eq_true (List.mem_filter.1 hw).2)
    (fun w hw => by simpa using (List.mem_filter.1 hw).2)
  have hname : lowered w = lowered v := of_decide_eq_true (List.mem_filter.1 hw).2
  rw [tree?, heq, List.foldlM_cons, add_new ((leadsOut_congr hname).2 h)]
  rfl

end Liveness.Environment
