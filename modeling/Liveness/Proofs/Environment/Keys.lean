import Mathlib.Data.List.Induction
import Mathlib.Data.List.TakeWhile
import Liveness.Environment.Setting

/-! Which variables say something about a key: those that name it, and those that name
something inside what it denotes. Behind the key of the latter stands a path, which is made of
members and subscripts; a name that is no such path is a key of its own. -/

namespace Liveness.Environment

/-- Members and subscripts, one after the other, and the steps that they are. -/
inductive Spells : List Step → List Char → Prop
  | nil : Spells [] []
  | member {name rest : List Char} {path : List Step} : name ≠ [] →
      (∀ c ∈ name, isKeyChar c = true) → Spells path rest →
      Spells (.member name :: path) ('.' :: (name ++ rest))
  | subscript {inside rest : List Char} {i : Int} {path : List Step} : ']' ∉ inside →
      subscript? inside = some i → Spells path rest →
      Spells (.item i :: path) ('[' :: (inside ++ ']' :: rest))

def IsPath (cs : List Char) : Prop := ∃ path, Spells path cs

/-- A path begins with no character of a key. -/
theorem IsPath.head?_not_keyChar {cs : List Char} (h : IsPath cs) :
    ∀ c ∈ cs.head?, isKeyChar c = false := by
  obtain ⟨path, h⟩ := h
  cases h with
  | nil => rintro c ⟨⟩
  | member => rintro c ⟨⟩; decide
  | subscript => rintro c ⟨⟩; decide

/-- What stands before a path is cut off where the path begins. -/
theorem takeWhile_append_path {key rest : List Char} (hk : ∀ c ∈ key, isKeyChar c = true)
    (hr : IsPath rest) : (key ++ rest).takeWhile isKeyChar = key := by
  rw [List.takeWhile_append_of_pos hk]
  cases rest with
  | nil => simp
  | cons c cs => simp [hr.head?_not_keyChar c rfl]

theorem dropWhile_append_path {key rest : List Char} (hk : ∀ c ∈ key, isKeyChar c = true)
    (hr : IsPath rest) : (key ++ rest).dropWhile isKeyChar = rest := by
  rw [List.dropWhile_append_of_pos hk]
  cases rest with
  | nil => rfl
  | cons c cs => simp [hr.head?_not_keyChar c rfl]

theorem readStep_member {name rest : List Char} (hn : name ≠ [])
    (hk : ∀ c ∈ name, isKeyChar c = true) (hr : IsPath rest) :
    readStep ('.' :: (name ++ rest)) = some (.member name, rest) := by
  rw [readStep, takeWhile_append_path hk hr]
  rw [if_neg hn, List.drop_left]

theorem readStep_subscript {inside : List Char} {i : Int} (rest : List Char) (hc : ']' ∉ inside)
    (hs : subscript? inside = some i) :
    readStep ('[' :: (inside ++ ']' :: rest)) = some (.item i, rest) := by
  have hall : ∀ c ∈ inside, decide (c ≠ ']') = true := fun c hm =>
    decide_eq_true fun e => hc (e ▸ hm)
  have hinside : (inside ++ ']' :: rest).takeWhile (· ≠ ']') = inside := by
    rw [List.takeWhile_append_of_pos hall]
    simp
  rw [readStep, hinside, List.drop_left]
  exact congrArg (Option.map _) hs

/-- All that a step can be. -/
theorem readStep_eq_some {cs rest : List Char} {s : Step} (h : readStep cs = some (s, rest)) :
    (∃ name, name ≠ [] ∧ (∀ c ∈ name, isKeyChar c = true) ∧ cs = '.' :: (name ++ rest) ∧
        s = .member name) ∨
      ∃ inside i, ']' ∉ inside ∧ subscript? inside = some i ∧ cs = '[' :: (inside ++ ']' :: rest) ∧
        s = .item i := by
  rw [readStep.eq_def] at h
  split at h
  · next cs =>
    dsimp only at h
    split at h
    · cases h
    · next hn =>
      cases h
      refine .inl ⟨_, hn, fun c hc => List.mem_takeWhile_imp hc, ?_, rfl⟩
      rw [List.prefix_iff_eq_append.1 (List.takeWhile_prefix isKeyChar)]
  · next cs =>
    dsimp only at h
    split at h
    · next r hr =>
      obtain ⟨i, hi, ⟨⟩⟩ := Option.map_eq_some_iff.1 h
      refine .inr ⟨_, i, fun hc => ?_, hi, ?_, rfl⟩
      · simpa using List.mem_takeWhile_imp hc
      · rw [← hr, List.prefix_iff_eq_append.1 (List.takeWhile_prefix _)]
    · cases h
  · cases h

theorem readPath_eq_some_iff {cs : List Char} {path : List Step} :
    readPath cs = some path ↔ Spells path cs := by
  constructor
  · intro h
    fun_induction readPath cs generalizing path with
    | case1 =>
      cases h
      exact .nil
    | case2 cs _ s rest hr ih =>
      obtain ⟨path, hp, rfl⟩ := Option.map_eq_some_iff.1 h
      rcases readStep_eq_some hr with ⟨name, hn, hk, rfl, rfl⟩ | ⟨inside, i, hc, hs, rfl, rfl⟩
      · exact .member hn hk (ih hp)
      · exact .subscript hc hs (ih hp)
    | case3 => cases h
  · intro h
    induction h with
    | nil => rw [readPath, if_pos rfl]
    | member hn hk hr ih =>
      rw [readPath, if_neg (List.cons_ne_nil _ _)]
      split
      · next he => rw [readStep_member hn hk ⟨_, hr⟩] at he; cases he; rw [ih]; rfl
      · next he => rw [readStep_member hn hk ⟨_, hr⟩] at he; cases he
    | subscript hc hs _ ih =>
      rw [readPath, if_neg (List.cons_ne_nil _ _)]
      split
      · next he => rw [readStep_subscript _ hc hs] at he; cases he; rw [ih]; rfl
      · next he => rw [readStep_subscript _ hc hs] at he; cases he

theorem isSome_readPath_iff {cs : List Char} : (readPath cs).isSome ↔ IsPath cs := by
  rw [Option.isSome_iff_exists]
  exact exists_congr fun path => readPath_eq_some_iff

instance (cs : List Char) : Decidable (IsPath cs) := decidable_of_iff _ isSome_readPath_iff

/-- A text that can stand before a path. -/
structure IsKey (key : List Char) : Prop where
  ne_nil : key ≠ []
  chars : ∀ c ∈ key, isKeyChar c = true

theorem readKey_append {key rest : List Char} {path : List Step} (hkey : IsKey key)
    (hr : Spells path rest) : readKey (key ++ rest) = (key, path) := by
  rw [readKey, takeWhile_append_path hkey.chars ⟨_, hr⟩, dropWhile_append_path hkey.chars ⟨_, hr⟩,
    readPath_eq_some_iff.2 hr]
  exact if_neg hkey.ne_nil

theorem readKey_self {key : List Char} (hkey : IsKey key) : readKey key = (key, []) := by
  have h := readKey_append hkey .nil
  rwa [List.append_nil] at h

/-- A text from which a key is read is that key, with the steps behind it. -/
theorem exists_of_readKey (cs : List Char) :
    ∃ rest, Spells (readKey cs).2 rest ∧ cs = (readKey cs).1 ++ rest := by
  have hself : ∃ rest, Spells [] rest ∧ cs = cs ++ rest :=
    ⟨[], .nil, (List.append_nil cs).symm⟩
  rw [readKey]
  split
  · next hp =>
    split
    · exact hself
    · exact ⟨_, readPath_eq_some_iff.1 hp, List.takeWhile_append_dropWhile.symm⟩
  · exact hself

variable {start key : List Char} {v : String × String}

/-- The variable says something about the key: behind its key comes a path. -/
def Concerns (start key : List Char) (v : String × String) : Prop :=
  ∃ rest, IsPath rest ∧ lowered v = start ++ key ++ rest

/-- The variable gives the value at the key. -/
def Names (start key : List Char) (v : String × String) : Prop := lowered v = start ++ key

/-- The variable gives the value of something inside what the key denotes. -/
def IsBelow (start key : List Char) (v : String × String) : Prop :=
  ∃ rest, rest ≠ [] ∧ IsPath rest ∧ lowered v = start ++ key ++ rest

theorem concerns_iff : Concerns start key v ↔ Names start key v ∨ IsBelow start key v := by
  constructor
  · rintro ⟨rest, hr, hv⟩
    by_cases hne : rest = []
    · subst hne
      exact .inl (by rw [Names, hv, List.append_nil])
    · exact .inr ⟨rest, hne, hr, hv⟩
  · rintro (h | ⟨rest, -, hr, hv⟩)
    · exact ⟨[], ⟨[], .nil⟩, by rw [List.append_nil]; exact h⟩
    · exact ⟨rest, hr, hv⟩

theorem concerns_iff_drop : Concerns start key v ↔
    (start ++ key) <+: lowered v ∧ IsPath ((lowered v).drop (start ++ key).length) := by
  constructor
  · rintro ⟨rest, hr, hv⟩
    rw [hv, List.drop_left]
    exact ⟨List.prefix_append _ _, hr⟩
  · rintro ⟨⟨rest, hv⟩, hr⟩
    rw [← hv, List.drop_left] at hr
    exact ⟨rest, hr, hv.symm⟩

instance : DecidablePred (Concerns start key) := fun _ =>
  decidable_of_iff _ concerns_iff_drop.symm

instance : DecidablePred (Names start key) := fun v =>
  inferInstanceAs (Decidable (lowered v = start ++ key))

theorem isBelow_iff : IsBelow start key v ↔ Concerns start key v ∧ ¬ Names start key v := by
  rw [concerns_iff]
  constructor
  · intro h
    refine ⟨.inr h, fun hn => ?_⟩
    obtain ⟨rest, hne, -, hv⟩ := h
    rw [Names, hv, List.append_right_eq_self] at hn
    exact hne hn
  · rintro ⟨h, hn⟩
    exact h.resolve_left hn

instance : DecidablePred (IsBelow start key) := fun _ => decidable_of_iff _ isBelow_iff.symm

/-- What a key denotes on account of a value behind some steps. -/
def given (value : String) : List Step → Setting
  | [] => .text value
  | .member _ :: _ => .table
  | .item _ :: _ => .list

/-- The key that a variable is about, and what it shows it to denote. -/
def settingOf? (start : List Char) (v : String × String) : Option (List Char × Setting) :=
  (ownName? start v).map fun name => ((readKey name).1, given v.2 (readKey name).2)

theorem ownName?_of_append {rest : List Char} (h : lowered v = start ++ rest) :
    ownName? start v = some rest := by
  rw [ownName?, h, if_pos (List.isPrefixOf_iff_prefix.2 (List.prefix_append _ _)),
    List.drop_left]

theorem ownName?_eq_some {rest : List Char} (h : ownName? start v = some rest) :
    lowered v = start ++ rest := by
  rw [ownName?] at h
  split at h
  · next hp =>
    cases h
    exact (List.prefix_iff_eq_append.1 (List.isPrefixOf_iff_prefix.1 hp)).symm
  · cases h

theorem settingOf?_of_names (hkey : IsKey key) (h : Names start key v) :
    settingOf? start v = some (key, .text v.2) := by
  rw [settingOf?, ownName?_of_append h, Option.map_some, readKey_self hkey]
  rfl

/-- A table or a list, and no text. -/
def Setting.IsCollection (s : Setting) : Prop := s = .table ∨ s = .list

theorem settingOf?_of_isBelow (hkey : IsKey key) (h : IsBelow start key v) :
    ∃ s, settingOf? start v = some (key, s) ∧ s.IsCollection := by
  obtain ⟨rest, hne, ⟨path, hr⟩, hv⟩ := h
  rw [List.append_assoc] at hv
  rw [settingOf?, ownName?_of_append hv, Option.map_some, readKey_append hkey hr]
  cases hr with
  | nil => exact absurd rfl hne
  | member => exact ⟨_, rfl, .inl rfl⟩
  | subscript => exact ⟨_, rfl, .inr rfl⟩

/-- A variable gives a setting only at a key that it is about. -/
theorem concerns_of_settingOf? {s : Setting} (h : settingOf? start v = some (key, s)) :
    Concerns start key v := by
  obtain ⟨name, hname, heq⟩ := Option.map_eq_some_iff.1 h
  cases heq
  obtain ⟨rest, hr, hrest⟩ := exists_of_readKey name
  refine ⟨rest, ⟨_, hr⟩, ?_⟩
  rw [ownName?_eq_some hname, List.append_assoc, ← hrest]

variable {vs : List (String × String)} {name : String}

/-- What stands where a value has been put. -/
theorem Tree.setting?_put {value : String} {path : List Step} {t u : Tree}
    (h : t.put value path = some u) : u.setting? = some (given value path) := by
  cases path with
  | nil =>
    cases h
    rfl
  | cons s path =>
    cases s with
    | member n =>
      obtain ⟨_, -, rfl⟩ := Option.map_eq_some_iff.1 h
      rfl
    | item i =>
      obtain ⟨_, -, h⟩ := Option.bind_eq_some_iff.1 h
      obtain ⟨_, -, rfl⟩ := Option.map_eq_some_iff.1 h
      rfl

/-- A variable tells what its key denotes, and nothing of other keys. -/
theorem denoted?_add {t t' : Tree} (h : add start t v = some t') :
    t'.denoted? name =
      match settingOf? start v with
      | some (key, s) => if name.toList = key then some s else t.denoted? name
      | none => t.denoted? name := by
  rw [settingOf?]
  rw [add] at h
  cases hown : ownName? start v with
  | none =>
    rw [hown] at h
    cases h
    rfl
  | some rest =>
    rw [hown] at h
    obtain ⟨u, hu, rfl⟩ := Option.map_eq_some_iff.1 h
    have hs := Tree.setting?_put hu
    simp only [Option.map_some, Tree.denoted?, Tree.members, List.lookup_cons]
    by_cases hk : name.toList = (readKey rest).1
    · rw [if_pos hk, beq_iff_eq.2 hk]
      exact hs
    · rw [if_neg hk, beq_false_of_ne hk]

theorem denoted?_add_of_some {t t' : Tree} {s : Setting} (h : add start t v = some t')
    (hs : settingOf? start v = some (name.toList, s)) : t'.denoted? name = some s := by
  rw [denoted?_add h, hs]
  exact if_pos rfl

theorem denoted?_add_of_ne {t t' : Tree} (h : add start t v = some t')
    (hs : ∀ s, settingOf? start v ≠ some (name.toList, s)) :
    t'.denoted? name = t.denoted? name := by
  rw [denoted?_add h]
  split
  · next k s heq => exact if_neg fun hk => hs s (by rw [heq, hk])
  · rfl

theorem exists_settingOf? (hkey : IsKey key) (hc : Concerns start key v) :
    ∃ s, settingOf? start v = some (key, s) := by
  rcases concerns_iff.1 hc with hn | hb
  · exact ⟨_, settingOf?_of_names hkey hn⟩
  · obtain ⟨s, hs, -⟩ := settingOf?_of_isBelow hkey hb
    exact ⟨s, hs⟩

/-- Of variables that are put one after the other, the last that is about the key tells what it
denotes. -/
theorem denoted?_foldlM (hkey : IsKey name.toList) {t : Tree}
    (h : vs.foldlM (add start) (.table []) = some t) :
    t.denoted? name = ((vs.filter (Concerns start name.toList)).getLast?).bind fun v =>
      (settingOf? start v).map (·.2) := by
  induction vs using List.reverseRecOn generalizing t with
  | nil =>
    cases h
    rfl
  | append_singleton vs v ih =>
    rw [List.foldlM_append] at h
    obtain ⟨t₁, ht₁, h⟩ := Option.bind_eq_some_iff.1 h
    obtain ⟨t₂, h, hpure⟩ := Option.bind_eq_some_iff.1 h
    cases hpure
    by_cases hc : Concerns start name.toList v
    · obtain ⟨s, hs⟩ := exists_settingOf? hkey hc
      rw [denoted?_add_of_some h hs]
      simp [hc, hs]
    · rw [denoted?_add_of_ne h fun s hs => hc (concerns_of_settingOf? hs), ih ht₁]
      simp [hc]

/-- Where a kind of variables is told by the name alone, it does not matter whether the last ones
of a name are taken before or after. -/
theorem filter_lastOnes {p : String × String → Bool}
    (hp : ∀ v w : String × String, lowered v = lowered w → p v = p w) :
    (lastOnes vs).filter p = lastOnes (vs.filter p) := by
  induction vs with
  | nil => rfl
  | cons v vs ih =>
    rw [lastOnes]
    cases hv : p v with
    | false =>
      have hneg : ¬ p v = true := by simp [hv]
      rw [List.filter_cons_of_neg hneg, ← ih]
      split
      · rfl
      · exact List.filter_cons_of_neg hneg
    | true =>
      -- whoever has the same name is of the kind too
      have hlater : (vs.filter p).any (lowered · = lowered v) =
          vs.any (lowered · = lowered v) := by
        rw [List.any_filter]
        refine congrArg (vs.any ·) (funext fun w => ?_)
        by_cases hw : lowered w = lowered v
        · rw [hp w v hw, hv, Bool.true_and]
        · rw [decide_eq_false hw, Bool.and_false]
      rw [List.filter_cons_of_pos hv, lastOnes, hlater, ← ih]
      split
      · rfl
      · exact List.filter_cons_of_pos hv

theorem getLast?_lastOnes (vs : List (String × String)) : (lastOnes vs).getLast? = vs.getLast? := by
  induction vs with
  | nil => rfl
  | cons v vs ih =>
    rw [lastOnes]
    split
    · next hlater =>
      obtain ⟨w, hw, -⟩ := List.any_eq_true.1 hlater
      rw [ih, List.getLast?_cons]
      cases hlast : vs.getLast? with
      | none =>
        rw [List.getLast?_eq_none_iff.1 hlast] at hw
        cases hw
      | some x => rfl
    · rw [List.getLast?_cons, List.getLast?_cons, ih]

/-- The last variable that is about the key tells what it denotes. -/
theorem denoted?_eq_getLast? (hkey : IsKey name.toList) {t : Tree}
    (h : tree? start vs = some t) :
    t.denoted? name = ((vs.filter (Concerns start name.toList)).getLast?).bind fun v =>
      (settingOf? start v).map (·.2) := by
  rw [denoted?_foldlM hkey h, filter_lastOnes, getLast?_lastOnes]
  intro v w heq
  exact decide_eq_decide.2 (by rw [Concerns, Concerns, heq])

/-- Only variables whose names begin as ours do are put anywhere. -/
theorem tree?_filter (start : List Char) (vs : List (String × String)) :
    tree? start (vs.filter fun v => (ownName? start v).isSome) = tree? start vs := by
  rw [tree?, tree?, ← filter_lastOnes fun v w heq => by rw [ownName?, ownName?, heq],
    List.foldlM_filter]
  refine congrArg (fun f => (lastOnes vs).foldlM f (Tree.table [])) ?_
  funext t v
  rw [add]
  cases ownName? start v <;> rfl

end Liveness.Environment
