import Liveness.Proofs.Config.Fitness
import Liveness.Proofs.Config.Items
import Liveness.Proofs.Url.RoundTrip

/-! Which JSON texts give a configuration, and which one. -/

namespace Liveness.Config

open Liveness.Json (Begins Blanks IsItem IsList IsMember IsObject IsText IsValue Separated Spells
  skipBlanks)

/-- All fields, in the order in which a list has them. -/
def fields : List Field := [.targetUrl, .timeoutSecs, .userAgent]

/-- What a configuration has in a field comes from these values: from the one there is, or, if
there is none, from the default. -/
inductive Holds (c : Config) (f : Field) : List (List Char) → Prop
  | default : c.get f = Config.default.get f → Holds c f []
  | given {v : List Char} : Means f v (c.get f) → Holds c f [v]

/-- Members tell of a configuration: they give each field at most once, and what they do not give
has its default; and it is one of the web that leaves some time. -/
structure Tells (ms : List (String × List Char)) (c : Config) : Prop where
  holds : ∀ f, c.Holds f (given f ms)
  web : c.targetUrl.scheme = "http" ∨ c.targetUrl.scheme = "https"
  time : c.timeoutSecs ≠ some 0

variable {c : Config} {d : Draft} {ms : List (String × List Char)} {vs : List (List Char)}
variable {text : String}

namespace OfJson

variable {cs r rest w : List Char} {more : Bool}

theorem firstKey_closing (hw : Blanks w) : firstKey (w ++ '}' :: cs) = .ok (false, cs) := by
  rw [firstKey, Json.skipBlanks_append_cons hw rfl]
  exact if_pos rfl

theorem firstKey_quote (hw : Blanks w) : firstKey (w ++ '"' :: cs) = .ok (true, cs) := by
  rw [firstKey, Json.skipBlanks_append_cons hw rfl]
  exact (if_neg (by decide)).trans (if_pos rfl)

theorem cases_of_firstKey (h : firstKey cs = .ok (more, rest)) :
    ∃ w, Blanks w ∧
      (more = false ∧ cs = w ++ '}' :: rest ∨ more = true ∧ cs = w ++ '"' :: rest) := by
  unfold firstKey at h
  split at h
  · cases h
  · next c r hb =>
    obtain ⟨w, rfl, hw, -⟩ := Json.eq_of_skipBlanks hb
    refine ⟨w, hw, ?_⟩
    split at h
    · next hc =>
      cases h
      exact .inl ⟨rfl, by rw [hc]⟩
    · split at h
      · next hc =>
        cases h
        exact .inr ⟨rfl, by rw [hc]⟩
      · cases h

theorem readDraft_brace (hw : Blanks w) : readDraft (w ++ '{' :: cs) = readObject cs := by
  rw [readDraft, Json.skipBlanks_append_cons hw rfl]
  rfl

theorem readDraft_bracket (hw : Blanks w) : readDraft (w ++ '[' :: cs) = readList cs := by
  rw [readDraft, Json.skipBlanks_append_cons hw rfl]
  rfl

theorem readList_of_blanks {c : Char} (hw : Blanks w) (hblank : Json.isBlank c = false)
    (hc : c ≠ ']') : readList (w ++ c :: cs) = readRest .empty fields (c :: cs) := by
  rw [readList, Json.skipBlanks_append_cons hw hblank]
  dsimp only
  rw [if_neg hc, readRest, fields]
  cases readItems .empty [.targetUrl, .timeoutSecs, .userAgent] (c :: cs) <;> rfl

/-- An object is read exactly as what its members add, up to the blanks behind it. -/
theorem readDraft_object_iff (h : IsObject ms cs) :
    ∃ w, Blanks w ∧ ∀ d r, readDraft cs = .ok (d, r) ↔ Adds ms .empty d ∧ r = w := by
  cases h with
  | @empty w w₁ w₂ hw hw₁ hw₂ =>
    refine ⟨w₂, hw₂, fun d r => ?_⟩
    change readDraft (w ++ '{' :: (w₁ ++ '}' :: w₂)) = _ ↔ _
    rw [readDraft_brace hw, readObject, firstKey_closing hw₁, Adds]
    simp [eq_comm]
  | @filled _ w es w₂ hw hms hw₂ =>
    obtain ⟨w', body, rfl, hw', hbody⟩ := adds_of_members hms
    refine ⟨w₂, hw₂, fun d r => ?_⟩
    rw [← hbody, List.append_assoc]
    change readDraft (w ++ '{' :: (w' ++ '"' :: (body ++ '}' :: w₂))) = _ ↔ _
    rw [readDraft_brace hw, readObject, firstKey_quote hw']

/-- A list is read exactly as what members of the fields' names add. -/
theorem readDraft_list_iff (h : IsList vs cs) :
    ∃ w, Blanks w ∧ ∀ d r, readDraft cs = .ok (d, r) ↔
      (vs.length ≤ fields.length ∧ Adds (named fields vs) .empty d) ∧ r = w := by
  cases h with
  | @empty w w₁ w₂ hw hw₁ hw₂ =>
    refine ⟨w₂, hw₂, fun d r => ?_⟩
    change readDraft (w ++ '[' :: (w₁ ++ ']' :: w₂)) = _ ↔ _
    rw [readDraft_bracket hw, readList, Json.skipBlanks_append_cons hw₁ rfl]
    simp [named, Adds, eq_comm]
  | @filled _ w es w₂ hw hvs hw₂ =>
    obtain ⟨-, w', c, body, rfl, hw', hc, hitems⟩ := readAsItems_of_separated hvs
    refine ⟨w₂, hw₂, fun d r => ?_⟩
    rw [fields, ← hitems _ _ _ _ _ _ (by decide) (fun f _ => Draft.get_empty f), List.append_assoc]
    change readDraft (w ++ '[' :: (w' ++ c :: (body ++ ']' :: w₂))) = _ ↔ _
    rw [readDraft_bracket hw, readList_of_blanks hw' hc.blank hc.list, fields,
      List.cons_append]

theorem shape_of_readObject (h : readObject cs = .ok (d, rest)) (hw : Blanks w)
    (hrest : Blanks rest) : ∃ ms, IsObject ms (w ++ '{' :: cs) := by
  unfold readObject at h
  split at h
  · cases h
  · next hfirst =>
    cases h
    obtain ⟨w', hw', ⟨-, rfl⟩ | ⟨hmore, -⟩⟩ := cases_of_firstKey hfirst
    · exact ⟨[], .empty hw hw' hrest⟩
    · cases hmore
  · next hfirst =>
    obtain ⟨w', hw', ⟨hmore, -⟩ | ⟨-, rfl⟩⟩ := cases_of_firstKey hfirst
    · cases hmore
    · obtain ⟨ms, es, hes, hms⟩ := members_of_readMembers h
      rw [hes, ← List.append_assoc]
      exact ⟨ms, .filled hw (Json.separated_blanks (Json.isMember_blanks hw') hms) hrest⟩

theorem shape_of_readList (h : readList cs = .ok (d, rest)) (hw : Blanks w)
    (hrest : Blanks rest) : ∃ vs, IsList vs (w ++ '[' :: cs) := by
  cases hb : skipBlanks cs with
  | nil =>
    rw [readList, hb] at h
    cases h
  | cons c r =>
    obtain ⟨w', rfl, hw', hblank⟩ := Json.eq_of_skipBlanks hb
    rcases eq_or_ne c ']' with rfl | hc
    · rw [readList, hb] at h
      cases h
      exact ⟨[], .empty hw hw' hrest⟩
    · rw [readList_of_blanks hw' hblank hc] at h
      obtain ⟨vs, es, hes, hvs⟩ := items_of_readRest (List.cons_ne_nil _ _) h
      rw [hes, ← List.append_assoc]
      exact ⟨vs, .filled hw (Json.separated_blanks (Json.isItem_blanks hw') hvs) hrest⟩

/-- What is read as a draft is an object or a list. -/
theorem shape_of_readDraft (h : readDraft cs = .ok (d, rest)) (hrest : Blanks rest) :
    (∃ ms, IsObject ms cs) ∨ ∃ vs, IsList vs cs := by
  unfold readDraft at h
  split at h
  · cases h
  · next c r hb =>
    obtain ⟨w, rfl, hw, -⟩ := Json.eq_of_skipBlanks hb
    split at h
    · next hc =>
      rw [hc]
      exact .inr (shape_of_readList h hw hrest)
    · split at h
      · next hc =>
        rw [hc]
        exact .inl (shape_of_readObject h hw hrest)
      · cases h

end OfJson

theorem ofJson_eq_ok_iff :
    Draft.ofJson text = .ok d ↔ ∃ rest, OfJson.readDraft text.toList = .ok (d, rest) ∧
      Blanks rest := by
  unfold Draft.ofJson
  cases hread : OfJson.readDraft text.toList with
  | error e => simp
  | ok p =>
    obtain ⟨d', rest⟩ := p
    dsimp only
    constructor
    · intro h
      split at h
      · next hb =>
        cases h
        obtain ⟨w, hw, hblanks⟩ := Json.blanks_of_skipBlanks rest
        rw [hb, List.append_nil] at hw
        exact ⟨rest, rfl, hw ▸ hblanks⟩
      · cases h
    · rintro ⟨rest', heq, hblanks⟩
      cases heq
      rw [Json.skipBlanks_of_blanks hblanks]

/-- The draft that has some fields of a configuration. -/
def only (c : Config) (p : Field → Prop) [DecidablePred p] : Draft where
  targetUrl := if p .targetUrl then some c.targetUrl else none
  timeoutSecs := if p .timeoutSecs then some c.timeoutSecs else none
  userAgent := if p .userAgent then some c.userAgent else none

theorem get_only (c : Config) (p : Field → Prop) [DecidablePred p] (f : Field) :
    (c.only p).get f = if p f then some (c.get f) else none := by
  cases f <;> rfl

/-- Members add a draft for a configuration exactly if it holds what they give. -/
theorem exists_adds_iff :
    (∃ d, Adds ms .empty d ∧ d.finish = c) ↔ ∀ f, c.Holds f (given f ms) := by
  constructor
  · rintro ⟨d, hadds, rfl⟩ f
    have htakes := adds_iff.1 hadds f
    generalize given f ms = vs at htakes
    cases htakes with
    | none hsame =>
      refine .default ?_
      rw [Draft.get_finish, hsame, Draft.get_empty]
      rfl
    | one _ hv hx =>
      refine .given ?_
      rwa [Draft.get_finish, hx]
  · intro h
    have hget := get_only c (fun f => given f ms ≠ [])
    refine ⟨c.only fun f => given f ms ≠ [], adds_iff.2 fun f => ?_, ext_get fun f => ?_⟩
    · have hf := h f
      have hgot := hget f
      generalize given f ms = vs at hf hgot
      cases hf with
      | default _ => exact .none (hgot.trans (Draft.get_empty f).symm)
      | given hv => exact .one (Draft.get_empty f) hv hgot
    · have hf := h f
      rw [Draft.get_finish, hget f]
      generalize given f ms = vs at hf
      cases hf with
      | default hsame => exact hsame.symm
      | given _ => rfl

/-- A configuration that is told of has a host, since every target of the web has one. -/
theorem fit_of_tells (h : Tells ms c) : c.Fit := by
  refine ⟨h.web, ?_, h.time⟩
  have htarget := h.holds .targetUrl
  generalize given .targetUrl ms = vs at htarget
  cases htarget with
  | default hsame =>
    have hsame : c.targetUrl = defaultTarget := hsame
    rw [hsame]
    exact Option.some_ne_none _
  | given hv =>
    have hkind : Url.Kind.ofScheme c.targetUrl.scheme = .web := by
      rcases h.web with hs | hs <;> rw [hs] <;> decide
    obtain ⟨s, hparse⟩ : ∃ s, Url.parse s = .ok c.targetUrl := by
      generalize hu : c.get .targetUrl = u at hv
      cases hv with
      | target _ hparse => exact ⟨_, hu ▸ hparse⟩
    obtain ⟨a, ha, hread⟩ := (Url.isRead_of_parse hparse hkind).authority
    obtain ⟨host, hhost, -⟩ := hread.host
    rw [Url.host?, ha]
    exact fun hnone => Option.some_ne_none host (hhost.symm.trans hnone)

theorem tells_iff : Tells ms c ↔ ∃ d, Adds ms .empty d ∧ d.finish = c ∧ c.Fit := by
  constructor
  · intro h
    obtain ⟨d, hadds, hc⟩ := exists_adds_iff.2 h.holds
    exact ⟨d, hadds, hc, fit_of_tells h⟩
  · rintro ⟨d, hadds, hc, hfit⟩
    exact ⟨exists_adds_iff.1 ⟨d, hadds, hc⟩, hfit.web, hfit.time⟩

theorem parse_json_eq_ok_iff :
    parse .json text = .ok c ↔ ∃ d, Draft.ofJson text = .ok d ∧ d.finish = c ∧ c.Fit := by
  rw [parse_eq_ok_iff]
  simp only [Draft.read, Except.mapError_eq_ok_iff]

/-- A text that is read as a draft up to blanks gives it. -/
theorem ofJson_iff_of_readDraft {P : Draft → Prop}
    (h : ∃ w, Blanks w ∧ ∀ d r, OfJson.readDraft text.toList = .ok (d, r) ↔ P d ∧ r = w) :
    Draft.ofJson text = .ok d ↔ P d := by
  obtain ⟨w, hw, hread⟩ := h
  rw [ofJson_eq_ok_iff]
  constructor
  · intro hd
    obtain ⟨rest, hd, -⟩ := hd
    exact ((hread d rest).1 hd).1
  · intro hp
    exact ⟨w, (hread d w).2 ⟨hp, rfl⟩, hw⟩

theorem parse_object_iff (h : IsObject ms text.toList) :
    parse .json text = .ok c ↔ Tells ms c := by
  simp only [parse_json_eq_ok_iff, tells_iff,
    ofJson_iff_of_readDraft (OfJson.readDraft_object_iff h)]

theorem parse_list_iff (h : IsList vs text.toList) :
    parse .json text = .ok c ↔ vs.length ≤ fields.length ∧ Tells (named fields vs) c := by
  simp only [parse_json_eq_ok_iff, tells_iff,
    ofJson_iff_of_readDraft (OfJson.readDraft_list_iff h), and_assoc, exists_and_left]

theorem shape_of_parse (h : parse .json text = .ok c) :
    (∃ ms, IsObject ms text.toList) ∨ ∃ vs, IsList vs text.toList := by
  obtain ⟨d, hd, -⟩ := parse_json_eq_ok_iff.1 h
  obtain ⟨rest, hread, hrest⟩ := ofJson_eq_ok_iff.1 hd
  exact OfJson.shape_of_readDraft hread hrest

/-- Two values that are one text, or strings that spell the same. -/
inductive Alike : List Char → List Char → Prop
  | same {v : List Char} : Alike v v
  | spelled {s : String} {v v' : List Char} : IsText s v → IsText s v' → Alike v v'

/-- Values that are alike one by one, in whatever order they stand. -/
def SameValues (vs vs' : List (List Char)) : Prop :=
  ∃ us, vs.Perm us ∧ List.Forall₂ Alike us vs'

theorem Alike.symm {v v' : List Char} (h : Alike v v') : Alike v' v := by
  cases h with
  | same => exact .same
  | spelled hv hv' => exact .spelled hv' hv

theorem eq_of_isText {s s' : String} {v : List Char} (h : IsText s v) (h' : IsText s' v) :
    s = s' := by
  have read : ∀ {s : String}, IsText s v → OfJson.readText expectedAgent v = .ok (s, []) := by
    intro s h
    cases h with
    | mk hs => exact OfJson.readText_eq_ok_iff.2 ⟨[], _, rfl, Blanks.nil, hs⟩
  have hsame := (read h).symm.trans (read h')
  cases hsame
  rfl

theorem Means.congr {f : Field} {v v' : List Char} {x : f.Value} (h : Means f v x)
    (ha : Alike v v') : Means f v' x := by
  cases ha with
  | same => exact h
  | @spelled s _ _ hv hv' =>
    have quoted : ∃ r, v = '"' :: r := by
      cases hv
      exact ⟨_, rfl⟩
    obtain ⟨r, hr⟩ := quoted
    cases h with
    | target hs hu => exact .target (eq_of_isText hv hs ▸ hv') hu
    | noTimeout => exact absurd (List.cons.inj hr).1 (by decide)
    | timeout n =>
      have hdigit : '"'.isDigit = true :=
        Json.isDigit_of_mem_decimal (n := n.toNat) (hr ▸ List.mem_cons_self)
      exact absurd hdigit (by decide)
    | noAgent => exact absurd (List.cons.inj hr).1 (by decide)
    | agent hs => exact .agent (eq_of_isText hv hs ▸ hv')

theorem holds_congr {f : Field} {vs' : List (List Char)} (h : SameValues vs vs') :
    c.Holds f vs ↔ c.Holds f vs' := by
  obtain ⟨us, hperm, halike⟩ := h
  constructor
  · intro hc
    cases hc with
    | default hsame =>
      rw [List.nil_perm.1 hperm] at halike
      cases halike
      exact .default hsame
    | given hv =>
      rw [← List.singleton_perm.1 hperm] at halike
      cases halike with
      | cons ha hnil =>
        cases hnil
        exact .given (hv.congr ha)
  · intro hc
    cases hc with
    | default hsame =>
      cases halike
      rw [List.perm_nil.1 hperm]
      exact .default hsame
    | given hv =>
      cases halike with
      | cons ha hnil =>
        cases hnil
        rw [List.perm_singleton.1 hperm]
        exact .given (hv.congr ha.symm)

theorem tells_congr {ms' : List (String × List Char)}
    (h : ∀ f, SameValues (given f ms) (given f ms')) : Tells ms c ↔ Tells ms' c := by
  constructor
  · intro ht
    exact ⟨fun f => (holds_congr (h f)).1 (ht.holds f), ht.web, ht.time⟩
  · intro ht
    exact ⟨fun f => (holds_congr (h f)).2 (ht.holds f), ht.web, ht.time⟩

theorem given_named_alike {vs' : List (List Char)} (h : List.Forall₂ Alike vs vs')
    (fs : List Field) (f : Field) :
    List.Forall₂ Alike (given f (named fs vs)) (given f (named fs vs')) := by
  induction h generalizing fs with
  | nil =>
    rw [named, List.zip_nil_right]
    exact .nil
  | @cons v v' vs vs' ha _ ih =>
    cases fs with
    | nil => exact .nil
    | cons g fs =>
      change List.Forall₂ Alike (given f ((g.name, v) :: named fs vs))
        (given f ((g.name, v') :: named fs vs'))
      rcases eq_or_ne g f with rfl | hne
      · rw [given_cons_name, given_cons_name]
        exact .cons ha (ih fs)
      · have hname : g.name ≠ f.name := fun heq => hne (Field.name_injective heq)
        rw [given_cons_of_ne hname, given_cons_of_ne hname]
        exact ih fs

/-- The law of acceptance. A text gives a configuration exactly if it is an object or a list whose
parts tell of it: the values of the three names, or the items by their places. Order, members of
other names, layout and escapes change nothing, and a name that is known never counts twice. -/
theorem json_acceptance :
    (∀ (text : String) (c : Config), parse .json text = .ok c ↔
      (∃ ms, IsObject ms text.toList ∧ Tells ms c) ∨
      ∃ vs, IsList vs text.toList ∧ vs.length ≤ 3 ∧ Tells (named fields vs) c) ∧
    (∀ (text text' : String) (ms ms' : List (String × List Char)), IsObject ms text.toList →
      IsObject ms' text'.toList → (∀ f, SameValues (given f ms) (given f ms')) →
      ∀ c, parse .json text = .ok c ↔ parse .json text' = .ok c) ∧
    (∀ (text text' : String) (vs vs' : List (List Char)), IsList vs text.toList →
      IsList vs' text'.toList → List.Forall₂ Alike vs vs' →
      ∀ c, parse .json text = .ok c ↔ parse .json text' = .ok c) ∧
    ∀ (text : String) (ms : List (String × List Char)) (f : Field), IsObject ms text.toList →
      2 ≤ (given f ms).length → ∃ e, parse .json text = .error e := by
  refine ⟨fun text c => ⟨fun h => ?_, ?_⟩, fun text text' ms ms' h h' hsame c => ?_,
    fun text text' vs vs' h h' halike c => ?_, fun text ms f h hlen => ?_⟩
  · rcases shape_of_parse h with ⟨ms, hms⟩ | ⟨vs, hvs⟩
    · exact .inl ⟨ms, hms, (parse_object_iff hms).1 h⟩
    · exact .inr ⟨vs, hvs, (parse_list_iff hvs).1 h⟩
  · rintro (⟨ms, hms, ht⟩ | ⟨vs, hvs, ht⟩)
    · exact (parse_object_iff hms).2 ht
    · exact (parse_list_iff hvs).2 ht
  · rw [parse_object_iff h, parse_object_iff h', tells_congr hsame]
  · rw [parse_list_iff h, parse_list_iff h', halike.length_eq,
      tells_congr fun f => ⟨_, .refl _, given_named_alike halike fields f⟩]
  · cases hp : parse .json text with
    | error e => exact ⟨e, rfl⟩
    | ok c =>
      have hc := ((parse_object_iff h).1 hp).holds f
      generalize given f ms = vs at hc hlen
      cases hc with
      | default _ => exact absurd hlen (by decide)
      | given _ => exact absurd hlen (by simp)

/-- A number of seconds is told of beside a key that nothing is known of, and by a key that is
written with an escape; it cannot be told of twice. -/
theorem json_acceptance_seconds :
    parse .json "\x7b\"x\":[],\"timeout_secs\":5\x7d" = .ok ⟨defaultTarget, some 5, none⟩ ∧
      parse .json "\x7b\"\\u0074imeout_secs\" : 5\x7d" = .ok ⟨defaultTarget, some 5, none⟩ ∧
      parse .json "[ ]" = .ok default ∧
      ∃ e, parse .json "\x7b\"timeout_secs\":5,\"timeout_secs\":5\x7d" = .error e := by
  have plain : ∀ s : List Char, (s.all fun c => decide (c ≠ '"' ∧ c ≠ '\\' ∧ 0x20 ≤ c.toNat)) =
      true → Spells s s := fun s hs =>
    Json.spells_self fun c hc => of_decide_eq_true (List.all_eq_true.1 hs c hc)
  have hkey : Spells "timeout_secs".toList "timeout_secs".toList := plain _ rfl
  have hescaped : Spells "timeout_secs".toList "\\u0074imeout_secs".toList :=
    .cons (.code (n := 0x74) (.mk (k := 0) (l := 0) (m := 7) (n := 4) (by decide) (by decide)
      (by decide) (by decide)) (by decide)) (plain "imeout_secs".toList rfl)
  have hx : Spells "x".toList ['x'] := plain ['x'] rfl
  have hfive : IsValue ['5'] := isValue_of_means (.timeout 5)
  have hseconds : ∀ {k : List Char}, Spells "timeout_secs".toList k → ∀ {w}, Blanks w →
      IsMember ("timeout_secs", ['5']) ('"' :: (k ++ '"' :: (w ++ ':' :: (w ++ ['5'])))) :=
    fun hk _ hw => .mk Blanks.nil hk hw hw hfive Blanks.nil
  have hother : IsMember ("x", ['[', ']']) "\"x\":[]".toList :=
    .mk Blanks.nil hx Blanks.nil Blanks.nil (.empty (b := .list) Blanks.nil) Blanks.nil
  have hspace : Blanks [' '] := List.forall_mem_singleton.2 List.mem_cons_self
  have hobject : IsObject [("x", ['[', ']']), ("timeout_secs", ['5'])]
      "\x7b\"x\":[],\"timeout_secs\":5\x7d".toList :=
    .filled Blanks.nil (.more hother (.one (hseconds hkey Blanks.nil))) Blanks.nil
  have hloose : IsObject [("timeout_secs", ['5'])] "\x7b\"\\u0074imeout_secs\" : 5\x7d".toList :=
    .filled Blanks.nil (.one (hseconds hescaped hspace)) Blanks.nil
  have htwice : IsObject [("timeout_secs", ['5']), ("timeout_secs", ['5'])]
      "\x7b\"timeout_secs\":5,\"timeout_secs\":5\x7d".toList :=
    .filled Blanks.nil (.more (hseconds hkey Blanks.nil) (.one (hseconds hkey Blanks.nil)))
      Blanks.nil
  have htells : Tells [("x", ['[', ']']), ("timeout_secs", ['5'])]
      ⟨defaultTarget, some 5, none⟩ := by
    refine ⟨fun f => ?_, .inl rfl, by decide⟩
    cases f with
    | targetUrl => exact .default rfl
    | timeoutSecs => exact .given (.timeout 5)
    | userAgent => exact .default rfl
  have hdefault : Tells [] default := by
    refine ⟨fun f => .default rfl, .inl rfl, by decide⟩
  have hfirst := (json_acceptance.1 _ _).2 (.inl ⟨_, hobject, htells⟩)
  have hlist : IsList [] "[]".toList := .empty Blanks.nil Blanks.nil Blanks.nil
  have hlist' : IsList [] "[ ]".toList := .empty Blanks.nil hspace Blanks.nil
  refine ⟨hfirst, ?_, ?_, json_acceptance.2.2.2 _ _ .timeoutSecs htwice (by decide)⟩
  · refine (json_acceptance.2.1 _ _ _ _ hobject hloose (fun f => ?_) _).1 hfirst
    cases f with
    | targetUrl => exact ⟨_, .refl _, .nil⟩
    | timeoutSecs => exact ⟨_, .refl _, .cons .same .nil⟩
    | userAgent => exact ⟨_, .refl _, .nil⟩
  · refine (json_acceptance.2.2.1 _ _ _ _ hlist hlist' .nil _).1 ?_
    exact (json_acceptance.1 _ _).2 (.inr ⟨_, hlist, by decide, hdefault⟩)

end Liveness.Config
