import Liveness.Config.Environment
import Liveness.Proofs.Environment.Lists
import Liveness.Proofs.Except

/-! Which variables decide the overrides. A field has the text of the last variable whose name,
in small letters, is the field's behind the common beginning; something inside a field is
refused; and whatever else is in the environment counts for nothing. -/

namespace Liveness.Config

open Liveness.Environment (Setting Tree tree? settingOf? Concerns Names IsBelow IsKey LeadsOut
  lowered ownName?)

/-- What stands behind the common beginning in the names of a field's variables. -/
def Field.key (f : Field) : List Char := f.name.toList

theorem Field.isKey (f : Field) : IsKey f.key := by
  cases f
  · exact ⟨by decide, List.all_eq_true.1 (by decide)⟩
  · exact ⟨by decide, List.all_eq_true.1 (by decide)⟩
  · exact ⟨by decide, List.all_eq_true.1 (by decide)⟩

/-- The number that a text stands for, as a switch or by its digits. -/
def secondsOf? (s : String) : Option UInt64 := (switchOf? s).or (wordOf? s)

/-- The text of the last variable that gives the field. -/
def lastText (vs : List (String × String)) (f : Field) : Option String :=
  ((vs.filter (Names start f.key)).getLast?).map (·.2)

/-- No field is given by one variable while another gives something inside it. -/
def OneDepth (vs : List (String × String)) : Prop :=
  ∀ f : Field, (∃ v ∈ vs, Names start f.key v) → ∀ v ∈ vs, ¬ IsBelow start f.key v

/-- Some variable gives something inside a field. -/
def HasInner (vs : List (String × String)) : Prop :=
  ∃ f : Field, ∃ v ∈ vs, IsBelow start f.key v

/-- No index in the names of our variables leads out of its list. -/
def InLists (vs : List (String × String)) : Prop := ∀ v ∈ vs, ¬ LeadsOut start v

variable {vs vs' : List (String × String)} {f : Field} {e e' : Environment} {t : Tree}

theorem lastText_ne_none_iff : lastText vs f ≠ none ↔ ∃ v ∈ vs, Names start f.key v := by
  simp [lastText]

theorem denoted?_of_plain (ht : tree? start vs = some t) (h : ∀ v ∈ vs, ¬ IsBelow start f.key v) :
    t.denoted? f.name = (lastText vs f).map .text := by
  have hfilter : vs.filter (Concerns start f.key) = vs.filter (Names start f.key) := by
    refine List.filter_congr fun v hv => ?_
    simp [Environment.concerns_iff, h v hv]
  rw [Environment.denoted?_eq_getLast? f.isKey ht]
  change ((vs.filter (Concerns start f.key)).getLast?).bind _ = _
  rw [hfilter, lastText]
  cases hlast : (vs.filter (Names start f.key)).getLast? with
  | none => rfl
  | some v =>
    have hv : Names start f.key v := by
      simpa using (List.mem_filter.1 (List.mem_of_getLast? hlast)).2
    rw [Option.bind_some, Environment.settingOf?_of_names f.isKey hv]
    rfl

theorem denoted?_of_inner (ht : tree? start vs = some t) (hd : OneDepth vs)
    (h : ∃ v ∈ vs, IsBelow start f.key v) :
    ∃ s, t.denoted? f.name = some s ∧ s.IsCollection := by
  obtain ⟨v, hv, hb⟩ := h
  rw [Environment.denoted?_eq_getLast? f.isKey ht]
  change ∃ s, ((vs.filter (Concerns start f.key)).getLast?).bind _ = some s ∧ _
  cases hlast : (vs.filter (Concerns start f.key)).getLast? with
  | none =>
    rw [List.getLast?_eq_none_iff, List.filter_eq_nil_iff] at hlast
    exact absurd (Environment.concerns_iff.2 (.inr hb)) (by simpa using hlast v hv)
  | some w =>
    obtain ⟨hw, hc⟩ := List.mem_filter.1 (List.mem_of_getLast? hlast)
    have hbelow : IsBelow start f.key w :=
      (Environment.concerns_iff.1 (by simpa using hc)).resolve_left fun hn =>
        hd f ⟨w, hw, hn⟩ v hv hb
    obtain ⟨s, hs, hcoll⟩ := Environment.settingOf?_of_isBelow f.isKey hbelow
    exact ⟨s, by rw [Option.bind_some, hs]; rfl, hcoll⟩

theorem environmentText_text (f : Field) (t : Option String) :
    environmentText f (t.map .text) = .ok t := by
  cases t <;> rfl

theorem environmentText_collection {s : Setting} (hs : s.IsCollection) :
    ∃ cause, environmentText f (some s) = .error cause := by
  rcases hs with rfl | rfl <;> exact ⟨_, rfl⟩

theorem environmentSeconds_collection {s : Setting} (hs : s.IsCollection) :
    ∃ cause, environmentSeconds f (some s) = .error cause := by
  rcases hs with rfl | rfl <;> exact ⟨_, rfl⟩

theorem environmentSeconds_of_some {s : String} {n : UInt64} (h : secondsOf? s = some n) :
    environmentSeconds f (some (.text s)) = .ok (some n) := by
  rw [environmentSeconds, show (switchOf? s).or (wordOf? s) = some n from h]

theorem environmentSeconds_of_none {s : String} (h : secondsOf? s = none) :
    environmentSeconds f (some (.text s)) = .error (.notInteger s f) := by
  rw [environmentSeconds, show (switchOf? s).or (wordOf? s) = none from h]

theorem environmentSeconds_text_iff {t : Option String} {n : Option UInt64} :
    environmentSeconds f (t.map .text) = .ok n ↔ t.map secondsOf? = n.map some := by
  cases t with
  | none => cases n <;> simp [environmentSeconds]
  | some s =>
    rw [Option.map_some, Option.map_some]
    cases hs : secondsOf? s with
    | none =>
      rw [environmentSeconds_of_none hs]
      cases n <;> simp
    | some k =>
      rw [environmentSeconds_of_some hs]
      cases n <;> simp

theorem ofEnvironment_eq (he : e.texts? = some vs) (ht : tree? start vs = some t) :
    Overrides.ofEnvironment e = Overrides.ofTree t := by
  simp only [Overrides.ofEnvironment, he, ht]

theorem ofTree_eq_ok_iff {o : Overrides} : Overrides.ofTree t = .ok o ↔
    environmentText .targetUrl (t.denoted? Field.targetUrl.name) = .ok o.targetUrl ∧
      environmentSeconds .timeoutSecs (t.denoted? Field.timeoutSecs.name) = .ok o.timeoutSecs ∧
      environmentText .userAgent (t.denoted? Field.userAgent.name) = .ok o.userAgent := by
  constructor
  · intro h
    obtain ⟨u, hu, h⟩ := Except.bind_eq_ok_iff.1 h
    obtain ⟨n, hn, h⟩ := Except.bind_eq_ok_iff.1 h
    obtain ⟨a, ha, h⟩ := Except.bind_eq_ok_iff.1 h
    cases h
    exact ⟨hu, hn, ha⟩
  · rintro ⟨hu, hn, ha⟩
    refine Except.bind_eq_ok_iff.2 ⟨_, hu, Except.bind_eq_ok_iff.2 ⟨_, hn, ?_⟩⟩
    exact Except.bind_eq_ok_iff.2 ⟨_, ha, rfl⟩

theorem tree_of_ofEnvironment (he : e.texts? = some vs) {o : Overrides}
    (h : Overrides.ofEnvironment e = .ok o) :
    ∃ t, tree? start vs = some t ∧ Overrides.ofTree t = .ok o := by
  rw [Overrides.ofEnvironment, he] at h
  dsimp only at h
  cases ht : tree? start vs with
  | none =>
    rw [ht] at h
    cases h
  | some t =>
    rw [ht] at h
    exact ⟨t, rfl, h⟩

/-- Where no field has something inside it, the last texts are read. -/
theorem ofTree_of_plain (ht : tree? start vs = some t) (h : ¬ HasInner vs) {o : Overrides} :
    Overrides.ofTree t = .ok o ↔ o.targetUrl = lastText vs .targetUrl ∧
      (lastText vs .timeoutSecs).map secondsOf? = o.timeoutSecs.map some ∧
      o.userAgent = lastText vs .userAgent := by
  have hplain : ∀ f : Field, t.denoted? f.name = (lastText vs f).map .text := fun f =>
    denoted?_of_plain ht fun v hv hb => h ⟨f, v, hv, hb⟩
  rw [ofTree_eq_ok_iff, hplain, hplain, hplain, environmentText_text,
    environmentText_text, environmentSeconds_text_iff, Except.ok.injEq, Except.ok.injEq,
    eq_comm (a := o.targetUrl), eq_comm (a := o.userAgent)]

theorem ofEnvironment_of_plain (he : e.texts? = some vs) (hl : InLists vs) (h : ¬ HasInner vs)
    {o : Overrides} :
    Overrides.ofEnvironment e = .ok o ↔ o.targetUrl = lastText vs .targetUrl ∧
      (lastText vs .timeoutSecs).map secondsOf? = o.timeoutSecs.map some ∧
      o.userAgent = lastText vs .userAgent := by
  obtain ⟨t, ht⟩ := Environment.exists_tree? hl
  rw [ofEnvironment_eq he ht, ofTree_of_plain ht h]

theorem ofEnvironment_of_inner (he : e.texts? = some vs) (hd : OneDepth vs) (h : HasInner vs)
    (o : Overrides) : Overrides.ofEnvironment e ≠ .ok o := by
  intro ho
  obtain ⟨t, htree, ho⟩ := tree_of_ofEnvironment he ho
  obtain ⟨ht, hn, ha⟩ := ofTree_eq_ok_iff.1 ho
  obtain ⟨f, hf⟩ := h
  obtain ⟨s, hs, hcoll⟩ := denoted?_of_inner htree hd hf
  cases f with
  | targetUrl =>
    obtain ⟨_, herr⟩ := environmentText_collection (f := .targetUrl) hcoll
    rw [hs, herr] at ht
    cases ht
  | timeoutSecs =>
    obtain ⟨_, herr⟩ := environmentSeconds_collection (f := .timeoutSecs) hcoll
    rw [hs, herr] at hn
    cases hn
  | userAgent =>
    obtain ⟨_, herr⟩ := environmentText_collection (f := .userAgent) hcoll
    rw [hs, herr] at ha
    cases ha

/-- Success and its values, told by the variables. -/
theorem ofEnvironment_ok_iff (he : e.texts? = some vs) (hl : InLists vs) (hd : OneDepth vs)
    {o : Overrides} :
    Overrides.ofEnvironment e = .ok o ↔ ¬ HasInner vs ∧ o.targetUrl = lastText vs .targetUrl ∧
      (lastText vs .timeoutSecs).map secondsOf? = o.timeoutSecs.map some ∧
      o.userAgent = lastText vs .userAgent := by
  by_cases h : HasInner vs
  · simp [h, ofEnvironment_of_inner he hd h o]
  · simp only [h, not_false_eq_true, true_and]
    exact ofEnvironment_of_plain he hl h

/-- Besides what is inside a field only the text of a timeout can be bad. -/
theorem ofEnvironment_exists_ok_iff (he : e.texts? = some vs) (hl : InLists vs)
    (hd : OneDepth vs) : (∃ o, Overrides.ofEnvironment e = .ok o) ↔
      ¬ HasInner vs ∧ ∀ s, lastText vs .timeoutSecs = some s → secondsOf? s ≠ none := by
  simp only [ofEnvironment_ok_iff he hl hd]
  constructor
  · rintro ⟨o, hi, -, ht, -⟩
    refine ⟨hi, fun s hs hnone => ?_⟩
    rw [hs, Option.map_some, hnone] at ht
    cases hn : o.timeoutSecs <;> simp [hn] at ht
  · rintro ⟨hi, ht⟩
    cases hs : lastText vs .timeoutSecs with
    | none => exact ⟨⟨lastText vs .targetUrl, none, lastText vs .userAgent⟩, hi, rfl, rfl, rfl⟩
    | some s =>
      obtain ⟨n, hn⟩ := Option.ne_none_iff_exists'.1 (ht s hs)
      exact ⟨⟨lastText vs .targetUrl, some n, lastText vs .userAgent⟩, hi, rfl,
        congrArg some hn, rfl⟩

/-- Only what is about a field is looked at. -/
theorem ofEnvironment_congr (he : e.texts? = some vs) (he' : e'.texts? = some vs')
    (hl : InLists vs) (hl' : InLists vs')
    (h : ∀ f : Field, vs'.filter (Concerns start f.key) = vs.filter (Concerns start f.key)) :
    Overrides.ofEnvironment e' = Overrides.ofEnvironment e := by
  obtain ⟨t, ht⟩ := Environment.exists_tree? hl
  obtain ⟨t', ht'⟩ := Environment.exists_tree? hl'
  have hdenoted : ∀ f : Field, t'.denoted? f.name = t.denoted? f.name := by
    intro f
    rw [Environment.denoted?_eq_getLast? f.isKey ht, Environment.denoted?_eq_getLast? f.isKey ht']
    exact congrArg (fun l : List (String × String) => l.getLast?.bind fun v =>
      (settingOf? start v).map (·.2)) (h f)
  rw [ofEnvironment_eq he' ht', ofEnvironment_eq he ht]
  simp only [Overrides.ofTree, hdenoted]

/-- Variables whose names do not begin as ours do are not even put anywhere. -/
theorem ofEnvironment_congr_own (he : e.texts? = some vs) (he' : e'.texts? = some vs')
    (h : (vs'.filter fun v => (ownName? start v).isSome) =
      vs.filter fun v => (ownName? start v).isSome) :
    Overrides.ofEnvironment e' = Overrides.ofEnvironment e := by
  simp only [Overrides.ofEnvironment, he, he']
  rw [← Environment.tree?_filter start vs', h, Environment.tree?_filter]

theorem not_isPanic_environmentText {s : Option Setting} {cause : EnvironmentError}
    (h : environmentText f s = .error cause) : ¬ cause.IsPanic := by
  rw [environmentText.eq_def] at h
  split at h <;> cases h
  rintro (h | h) <;> cases h

theorem not_isPanic_environmentSeconds {s : Option Setting} {cause : EnvironmentError}
    (h : environmentSeconds f s = .error cause) : ¬ cause.IsPanic := by
  rw [environmentSeconds.eq_def] at h
  split at h
  · cases h
  · split at h <;> cases h
    rintro (h | h) <;> cases h
  · cases h
    rintro (h | h) <;> cases h

/-- Once the values are in their places, what is wrong with them is told. -/
theorem not_isPanic_ofTree {cause : EnvironmentError} (h : Overrides.ofTree t = .error cause) :
    ¬ cause.IsPanic := by
  rcases Except.bind_eq_error_iff.1 h with h | ⟨_, -, h⟩
  · exact not_isPanic_environmentText h
  · rcases Except.bind_eq_error_iff.1 h with h | ⟨_, -, h⟩
    · exact not_isPanic_environmentSeconds h
    · rcases Except.bind_eq_error_iff.1 h with h | ⟨_, -, h⟩
      · exact not_isPanic_environmentText h
      · cases h

theorem not_isPanic_of_inLists (he : e.texts? = some vs) (hl : InLists vs)
    {cause : EnvironmentError} (h : Overrides.ofEnvironment e = .error cause) :
    ¬ cause.IsPanic := by
  obtain ⟨t, ht⟩ := Environment.exists_tree? hl
  rw [ofEnvironment_eq he ht] at h
  exact not_isPanic_ofTree h

theorem hasInner_of_perm (hp : vs'.Perm vs) : HasInner vs' ↔ HasInner vs := by
  simp only [HasInner, hp.mem_iff]

theorem inLists_of_perm (hp : vs'.Perm vs) (hl : InLists vs) : InLists vs' :=
  fun v hv => hl v (hp.mem_iff.1 hv)

theorem oneDepth_of_perm (hp : vs'.Perm vs) (hd : OneDepth vs) : OneDepth vs' := by
  simp only [OneDepth, hp.mem_iff]
  exact hd

/-- Where names are not repeated, no order of the variables matters. -/
theorem lastText_of_perm (hp : vs'.Perm vs) (hn : (vs.map lowered).Nodup) (f : Field) :
    lastText vs' f = lastText vs f := by
  have hone : (vs.filter (Names start f.key)).length ≤ 1 := by
    have hsub : ((vs.filter (Names start f.key)).map lowered).Nodup :=
      hn.sublist (List.filter_sublist.map _)
    have hall : ∀ n ∈ (vs.filter (Names start f.key)).map lowered, n = start ++ f.key := by
      intro n hn
      obtain ⟨v, hv, rfl⟩ := List.mem_map.1 hn
      exact of_decide_eq_true (List.mem_filter.1 hv).2
    rw [List.eq_replicate_of_mem hall, List.nodup_replicate, List.length_map] at hsub
    exact hsub
  have hfilter : vs'.filter (Names start f.key) = vs.filter (Names start f.key) := by
    have hperm := hp.filter fun v => decide (Names start f.key v)
    cases hvs : vs.filter (Names start f.key) with
    | nil => exact List.perm_nil.1 (hvs ▸ hperm)
    | cons v rest =>
      rw [hvs, List.length_cons] at hone
      obtain rfl : rest = [] := List.length_eq_zero_iff.1 (by omega)
      exact List.perm_singleton.1 (hvs ▸ hperm)
  rw [lastText, hfilter, lastText]

/-- Which variables decide the overrides. A field is given exactly if some variable has its name,
in capitals or not, and it has the text of the last one. A name with something inside a field
makes the reading fail, and besides that only a timeout that is no number does; both are told.
Variables that are about no field count for nothing, and the order of the others only among
those of one field. -/
theorem overrides_of_variables (he : e.texts? = some vs) (hl : InLists vs) (hd : OneDepth vs) :
    (∀ f, lastText vs f ≠ none ↔ ∃ v ∈ vs, Names start f.key v) ∧
    (∀ o, Overrides.ofEnvironment e = .ok o ↔ ¬ HasInner vs ∧
      o.targetUrl = lastText vs .targetUrl ∧
      (lastText vs .timeoutSecs).map secondsOf? = o.timeoutSecs.map some ∧
      o.userAgent = lastText vs .userAgent) ∧
    ((∃ cause, Overrides.ofEnvironment e = .error cause) ↔
      HasInner vs ∨ ∃ s, lastText vs .timeoutSecs = some s ∧ secondsOf? s = none) ∧
    (∀ cause, Overrides.ofEnvironment e = .error cause → ¬ cause.IsPanic) ∧
    (∀ e' vs', e'.texts? = some vs' → InLists vs' →
      (∀ f : Field, vs'.filter (Concerns start f.key) = vs.filter (Concerns start f.key)) →
      Overrides.ofEnvironment e' = Overrides.ofEnvironment e) ∧
    ∀ e' vs', e'.texts? = some vs' → vs'.Perm vs →
      (vs.map lowered).Nodup ∨ (∀ f, lastText vs' f = lastText vs f) →
      ∀ o, Overrides.ofEnvironment e' = .ok o ↔ Overrides.ofEnvironment e = .ok o := by
  refine ⟨fun f => lastText_ne_none_iff, fun o => ofEnvironment_ok_iff he hl hd, ?_,
    fun cause h => not_isPanic_of_inLists he hl h,
    fun e' vs' he' hl' h => ofEnvironment_congr he he' hl hl' h, fun e' vs' he' hp h o => ?_⟩
  · have herror : (∃ cause, Overrides.ofEnvironment e = .error cause) ↔
        ¬ ∃ o, Overrides.ofEnvironment e = .ok o := by
      cases Overrides.ofEnvironment e <;> simp
    rw [herror, ofEnvironment_exists_ok_iff he hl hd]
    grind
  · have hlast : ∀ f, lastText vs' f = lastText vs f :=
      h.elim (fun hn => lastText_of_perm hp hn) id
    rw [ofEnvironment_ok_iff he' (inLists_of_perm hp hl) (oneDepth_of_perm hp hd),
      ofEnvironment_ok_iff he hl hd, hasInner_of_perm hp, hlast, hlast, hlast]

/-- The last of two spellings counts, and a name that ends in a dot is a key of its own. -/
theorem overrides_of_variables_spelled :
    let vs := [("PROBE_TARGET_URL", "http://a/"), ("probe_Target_URL", "http://b/"),
      ("PROBE_TARGET_URL.", "c"), ("PROBE_timeout_SECS", "4"), ("PROBE_X.USER_AGENT[0]", "d")]
    let e : Environment := ⟨vs.map fun v => (Text.Utf8.encode v.1, Text.Utf8.encode v.2)⟩
    e.texts? = some vs ∧ InLists vs ∧ OneDepth vs ∧
      Overrides.ofEnvironment e = .ok ⟨some "http://b/", some 4, none⟩ := by
  intro vs e
  have htexts : e.texts? = some vs := by
    simp [e, vs, Environment.texts?, Text.Utf8.decode?_encode]
  have hinner : ¬ HasInner vs := by
    rintro ⟨f, v, hv, hb⟩
    revert v
    cases f <;> decide +kernel
  have hl : InLists vs := by
    rw [InLists]
    decide +kernel
  have hd : OneDepth vs := fun f _ v hv hb => hinner ⟨f, v, hv, hb⟩
  refine ⟨htexts, hl, hd, ((overrides_of_variables htexts hl hd).2.1 _).2 ⟨hinner, ?_⟩⟩
  decide +kernel

end Liveness.Config
