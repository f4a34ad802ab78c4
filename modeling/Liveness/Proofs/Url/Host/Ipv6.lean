import Liveness.Proofs.Url.Host.Ipv4
import Liveness.Url.Host.Ipv6
import Mathlib.Data.List.TakeWhile

/-! Addresses of eight groups are read as they are written. -/

namespace Liveness.Url.Host.Ipv6

theorem exists_digit_of_mem_toDigits {base n : Nat} (hb : 1 < base) {c : Char}
    (hc : c ∈ Nat.toDigits base n) : ∃ d < base, c = Nat.digitChar d := by
  induction n using Nat.strongRecOn with
  | _ n ih =>
    rw [Nat.toDigits_eq_if hb] at hc
    split at hc
    · next hn => exact ⟨n, hn, List.mem_singleton.1 hc⟩
    · next hn =>
      rcases List.mem_append.1 hc with hc | hc
      · exact ih _ (Nat.div_lt_self (by omega) hb) hc
      · exact ⟨n % base, Nat.mod_lt n (by omega), List.mem_singleton.1 hc⟩

theorem isHex_of_mem {n : Nat} {c : Char} (hc : c ∈ Nat.toDigits 16 n) :
    isHex c = true ∧ c ≠ ':' := by
  obtain ⟨d, hd, rfl⟩ := exists_digit_of_mem_toDigits (by decide) hc
  have key : ∀ d < 16, isHex (Nat.digitChar d) = true ∧ Nat.digitChar d ≠ ':' := by decide
  exact key d hd

theorem length_toDigits_toNat (n : UInt16) : (Nat.toDigits 16 n.toNat).length ≤ 4 :=
  (Nat.length_toDigits_le_iff (by decide) (by decide)).2 n.toNat_lt

/-- What may follow the digits of a group. -/
def EndsGroup (rest : List Char) : Prop := rest = [] ∨ ∃ r, rest = ':' :: r

theorem hexDigits_append (n : UInt16) {rest : List Char} (hr : EndsGroup rest) :
    hexDigits (Nat.toDigits 16 n.toNat ++ rest) = (Nat.toDigits 16 n.toNat, rest) := by
  have hlen := length_toDigits_toNat n
  have hhex : ∀ c ∈ Nat.toDigits 16 n.toNat, isHex c = true := fun c hc => (isHex_of_mem hc).1
  have hrest : ∀ k, (rest.take k).takeWhile isHex = [] := by
    rcases hr with rfl | ⟨r, rfl⟩
    · simp
    · rintro (_ | k)
      · rfl
      · exact List.takeWhile_cons_of_neg (by decide)
  rw [hexDigits, List.take_append, List.take_of_length_le hlen,
    List.takeWhile_append_of_pos hhex, hrest, List.append_nil, List.drop_left]

theorem pieces?_colon (rest : List Char) :
    pieces? (':' :: rest) = (pieces? rest).map (.gap :: ·) := by
  rw [pieces?]

theorem pieces?_digits (n : UInt16) :
    pieces? (Nat.toDigits 16 n.toNat) = some [.group n.toNat] := by
  obtain ⟨c, cs, hds⟩ := List.exists_cons_of_ne_nil (Nat.toDigits_ne_nil (n := n.toNat) (b := 16))
  have hc : c ≠ ':' := (isHex_of_mem (hds ▸ List.mem_cons_self)).2
  have hhex := hexDigits_append n (.inl rfl)
  rw [List.append_nil] at hhex
  rw [hds] at hhex ⊢
  rw [pieces?]
  · split
    · rw [hhex, ← hds, number?_toDigits (by decide) (by decide)]
      rfl
    · next h => rw [hhex] at h; cases h
    · next h => rw [hhex] at h; cases h
    · next h _ _ => exact absurd (congrArg Prod.snd hhex) h
  · exact fun h => hc h

theorem pieces?_digits_colon (n : UInt16) {after : List Char} (ha : after ≠ []) :
    pieces? (Nat.toDigits 16 n.toNat ++ ':' :: after) =
      (pieces? after).map (.group n.toNat :: ·) := by
  obtain ⟨c, cs, hds⟩ := List.exists_cons_of_ne_nil (Nat.toDigits_ne_nil (n := n.toNat) (b := 16))
  have hc : c ≠ ':' := (isHex_of_mem (hds ▸ List.mem_cons_self)).2
  have hhex := hexDigits_append n (.inr ⟨after, rfl⟩)
  rw [hds, List.cons_append] at hhex ⊢
  rw [pieces?]
  · split
    · next h => rw [hhex] at h; cases h
    · next after' h =>
      rw [hhex] at h
      cases h
      rw [if_neg ha, hhex, ← hds, number?_toDigits (by decide) (by decide)]
      cases pieces? after <;> rfl
    · next h => rw [hhex] at h; cases h
    · next _ h _ => exact absurd (congrArg Prod.snd hhex) (h after)
  · exact fun h => hc h

/-- The pieces of some groups. -/
def groupPieces (ns : List UInt16) : List Piece := ns.map fun n => .group n.toNat

theorem printGroups_cons {n : UInt16} {ns : List UInt16} (h : ns ≠ []) :
    printGroups (n :: ns) = Nat.toDigits 16 n.toNat ++ ':' :: printGroups ns := by
  rw [printGroups, List.map_cons, joinWith_cons (by simpa using h), ← printGroups]

theorem printGroups_ne_nil {ns : List UInt16} (h : ns ≠ []) : printGroups ns ≠ [] := by
  obtain ⟨n, ns, rfl⟩ := List.exists_cons_of_ne_nil h
  cases ns with
  | nil => exact Nat.toDigits_ne_nil
  | cons m ms =>
    rw [printGroups_cons (List.cons_ne_nil m ms)]
    simp

theorem pieces?_printGroups {ns : List UInt16} (h : ns ≠ []) :
    pieces? (printGroups ns) = some (groupPieces ns) := by
  induction ns with
  | nil => exact absurd rfl h
  | cons n ns ih =>
    cases ns with
    | nil => exact pieces?_digits n
    | cons m ms =>
      have hms : m :: ms ≠ [] := List.cons_ne_nil m ms
      rw [printGroups_cons hms, pieces?_digits_colon n (printGroups_ne_nil hms), ih hms]
      rfl

/-- Behind the groups comes a gap. -/
theorem pieces?_printGroups_gap {ns : List UInt16} (h : ns ≠ []) (rest : List Char) :
    pieces? (printGroups ns ++ ':' :: ':' :: rest) =
      (pieces? rest).map fun ps => groupPieces ns ++ .gap :: ps := by
  induction ns with
  | nil => exact absurd rfl h
  | cons n ns ih =>
    cases ns with
    | nil =>
      change pieces? (Nat.toDigits 16 n.toNat ++ ':' :: ':' :: rest) = _
      rw [pieces?_digits_colon n (List.cons_ne_nil _ _), pieces?_colon, Option.map_map]
      rfl
    | cons m ms =>
      have hms : m :: ms ≠ [] := List.cons_ne_nil m ms
      rw [printGroups_cons hms, List.append_assoc, List.cons_append,
        pieces?_digits_colon n (by simp), ih hms, Option.map_map]
      rfl

/-- A text of at least two characters of which the first is no colon. -/
theorem allPieces?_of_digit {cs : List Char} (hlen : 2 ≤ cs.length)
    (hc : ∀ c ∈ cs.head?, c ≠ ':') : allPieces? cs = pieces? cs := by
  rw [allPieces?]
  · rintro rfl
    simp at hlen
  · rintro rest rfl
    exact hc ':' rfl rfl
  · rintro rest rfl
    exact hc ':' rfl rfl
  · rintro c rfl
    simp at hlen

theorem head?_printGroups {ns : List UInt16} (h : ns ≠ []) (rest : List Char) :
    ∀ c ∈ (printGroups ns ++ rest).head?, c ≠ ':' := by
  obtain ⟨n, ns, rfl⟩ := List.exists_cons_of_ne_nil h
  have hhead : ∃ c ∈ Nat.toDigits 16 n.toNat, ∃ cs, printGroups (n :: ns) = c :: cs := by
    obtain ⟨c, cs, hds⟩ := List.exists_cons_of_ne_nil (Nat.toDigits_ne_nil (n := n.toNat) (b := 16))
    refine ⟨c, hds ▸ List.mem_cons_self, ?_⟩
    cases ns with
    | nil => exact ⟨cs, hds⟩
    | cons m ms => exact ⟨_, by rw [printGroups_cons (List.cons_ne_nil m ms), hds]; rfl⟩
  obtain ⟨c, hc, cs, hcs⟩ := hhead
  rintro x hx rfl
  rw [hcs] at hx
  cases hx
  exact (isHex_of_mem hc).2 rfl

theorem longestZeros_spec (i : Nat) (ns : List UInt16) :
    ∃ k, (longestZeros i ns).1 = i + k ∧ k + (longestZeros i ns).2 ≤ ns.length ∧
      (ns.drop k).take (longestZeros i ns).2 = List.replicate (longestZeros i ns).2 0 := by
  induction ns generalizing i with
  | nil => exact ⟨0, rfl, Nat.le_refl _, rfl⟩
  | cons n ns ih =>
    rw [longestZeros]
    split
    · refine ⟨0, rfl, ?_, ?_⟩
      · rw [Nat.zero_add]
        exact (List.takeWhile_prefix _).length_le
      · rw [List.drop_zero, ← List.prefix_iff_eq_take.1 (List.takeWhile_prefix _)]
        exact List.eq_replicate_of_mem fun x hx => by simpa using List.mem_takeWhile_imp hx
    · obtain ⟨k, hstart, hlen, hzero⟩ := ih (i + 1)
      refine ⟨k + 1, by rw [hstart]; omega, by rw [List.length_cons]; omega, ?_⟩
      rw [List.drop_succ_cons]
      exact hzero

theorem filterMap_groupPieces {f : Piece → Option Nat} (hf : ∀ n, f (.group n) = some n)
    (ns : List UInt16) : (groupPieces ns).filterMap f = ns.map UInt16.toNat := by
  rw [groupPieces, List.filterMap_map, ← List.filterMap_eq_map]
  exact congrArg (ns.filterMap ·) (funext fun n => hf n.toNat)

theorem filter_groupPieces (ns : List UInt16) : (groupPieces ns).filter (· = Piece.gap) = [] := by
  simp [groupPieces]

theorem expand?_groupPieces {ns : List UInt16} (h : ns.length = 8) :
    expand? (groupPieces ns) = some (ns.map UInt16.toNat) := by
  rw [expand?, filterMap_groupPieces fun _ => rfl, filter_groupPieces]
  simp [h]

/-- A gap stands for the zeros that are missing. -/
theorem expand?_gap {before after : List UInt16} (h : before.length + after.length ≤ 7) :
    expand? (groupPieces before ++ .gap :: groupPieces after) =
      some (before.map UInt16.toNat ++
        List.replicate (8 - (before.length + after.length)) 0 ++ after.map UInt16.toNat) := by
  have hgap : ((groupPieces before ++ Piece.gap :: groupPieces after).filter
      (· = Piece.gap)).length = 1 := by
    simp [List.filter_append, filter_groupPieces]
  have hbefore : (groupPieces before ++ Piece.gap :: groupPieces after).takeWhile
      (· ≠ Piece.gap) = groupPieces before := by
    rw [List.takeWhile_append_of_pos (by simp [groupPieces]), List.takeWhile_cons_of_neg (by simp),
      List.append_nil]
  have hlen : (groupPieces before).length = (before.map UInt16.toNat).length := by
    simp [groupPieces]
  rw [expand?, List.filterMap_append, List.filterMap_cons, filterMap_groupPieces fun _ => rfl,
    filterMap_groupPieces fun _ => rfl, hgap, hbefore, hlen]
  simp [h]

theorem ofGroups?_groups (a : Ipv6) : ofGroups? (a.groups.map UInt16.toNat) = some a := by
  obtain ⟨ns, hns⟩ := a
  rw [ofGroups?, dif_pos (by simpa using hns)]
  simp [Function.comp_def]

theorem pieces?_printGroups_all (ns : List UInt16) :
    pieces? (printGroups ns) = some (groupPieces ns) := by
  cases ns with
  | nil => exact pieces?.eq_1
  | cons n ns => exact pieces?_printGroups (List.cons_ne_nil n ns)

theorem allPieces?_printGroups {n : UInt16} {ns : List UInt16} (h : ns ≠ []) :
    allPieces? (printGroups (n :: ns)) = some (groupPieces (n :: ns)) := by
  have hlen : 2 ≤ (printGroups (n :: ns)).length := by
    have := List.length_pos_iff.2 (Nat.toDigits_ne_nil (n := n.toNat) (b := 16))
    rw [printGroups_cons h, List.length_append, List.length_cons]
    omega
  have hhead := head?_printGroups (List.cons_ne_nil n ns) []
  rw [List.append_nil] at hhead
  rw [allPieces?_of_digit hlen hhead, pieces?_printGroups (List.cons_ne_nil n ns)]

theorem allPieces?_gap (before after : List UInt16) :
    allPieces? (printGroups before ++ ':' :: ':' :: printGroups after) =
      some (groupPieces before ++ .gap :: groupPieces after) := by
  cases before with
  | nil =>
    change (pieces? (printGroups after)).map (.gap :: ·) = _
    rw [pieces?_printGroups_all]
    rfl
  | cons n ns =>
    have hne : n :: ns ≠ [] := List.cons_ne_nil n ns
    have hlen : 2 ≤ (printGroups (n :: ns) ++ ':' :: ':' :: printGroups after).length := by
      simp only [List.length_append, List.length_cons]
      omega
    rw [allPieces?_of_digit hlen (head?_printGroups hne _), pieces?_printGroups_gap hne,
      pieces?_printGroups_all]
    rfl

theorem parse?_print (a : Ipv6) : parse? a.print = some a := by
  obtain ⟨k, hstart, hlen, hzero⟩ := longestZeros_spec 0 a.groups
  have ha := a.length_groups
  rw [Nat.zero_add] at hstart
  rw [parse?, print]
  dsimp only
  rw [hstart]
  generalize (longestZeros 0 a.groups).2 = length at hlen hzero ⊢
  split
  · obtain ⟨n, ns, hns⟩ := List.exists_cons_of_length_eq_add_one ha
    have hne : ns ≠ [] := by
      rintro rfl
      rw [hns] at ha
      cases ha
    rw [hns, allPieces?_printGroups hne, ← hns, Option.bind_some, expand?_groupPieces ha,
      Option.bind_some, ofGroups?_groups]
  · -- the zeros that the gap stands for are those that were left out
    have hgroups : a.groups.take k ++ List.replicate length 0 ++ a.groups.drop (k + length) =
        a.groups := by
      rw [← hzero, List.append_assoc, ← List.drop_drop, List.take_append_drop,
        List.take_append_drop]
    have hmissing : 8 - ((a.groups.take k).length + (a.groups.drop (k + length)).length) =
        length := by
      rw [List.length_take, List.length_drop]
      omega
    have hnats : (a.groups.take k).map UInt16.toNat ++ List.replicate length 0 ++
        (a.groups.drop (k + length)).map UInt16.toNat = a.groups.map UInt16.toNat := by
      conv_rhs => rw [← hgroups, List.map_append, List.map_append, List.map_replicate]
      rfl
    rw [allPieces?_gap, Option.bind_some, expand?_gap (by simp; omega), Option.bind_some,
      hmissing, hnats, ofGroups?_groups]

theorem mem_printGroups {ns : List UInt16} {c : Char} (hc : c ∈ printGroups ns) :
    c = ':' ∨ ∃ d < 16, c = Nat.digitChar d := by
  refine (mem_joinWith hc).imp_right ?_
  rintro ⟨ds, hds, hc⟩
  obtain ⟨n, -, rfl⟩ := List.mem_map.1 hds
  exact exists_digit_of_mem_toDigits (by decide) hc

theorem mem_print {a : Ipv6} {c : Char} (hc : c ∈ a.print) :
    c = ':' ∨ ∃ d < 16, c = Nat.digitChar d := by
  rw [print] at hc
  dsimp only at hc
  split at hc
  · exact mem_printGroups hc
  · simp only [List.mem_append, List.mem_cons] at hc
    rcases hc with hc | hc | hc | hc
    · exact mem_printGroups hc
    · exact .inl hc
    · exact .inl hc
    · exact mem_printGroups hc

end Liveness.Url.Host.Ipv6
