import Liveness.Proofs.Config.Foreign
import Liveness.Proofs.Config.RoundTrip
import Liveness.Proofs.Config.Timeouts

/-! Two ways to hand a configuration to a run: its JSON text in a file, and its fields in
variables. Both bring the same configuration, and the variables do so over any file for the
fields that they give. -/

namespace Liveness

namespace Environment

open Text

/-- The environment after some variables have been set. -/
def withTexts (e : Environment) (vs : List (String × String)) : Environment :=
  vs.foldl (fun e v => e.set (Utf8.encode v.1) (Utf8.encode v.2)) e

theorem set_of_new {e : Environment} {name : Bytes} (value : Bytes)
    (h : ∀ v ∈ e.entries, v.1 ≠ name) : e.set name value = ⟨e.entries ++ [(name, value)]⟩ := by
  have hany : ¬ (e.entries.any (·.1 = name)) = true := by
    rw [List.any_eq_true]
    rintro ⟨v, hv, heq⟩
    exact h v hv (of_decide_eq_true heq)
  rw [set, if_neg hany]

/-- New variables stand behind the others, in the order in which they were set. -/
theorem withTexts_of_new (e : Environment) {vs : List (String × String)}
    (hn : (vs.map (·.1)).Nodup) (h : ∀ v ∈ vs, ∀ w ∈ e.entries, w.1 ≠ Utf8.encode v.1) :
    e.withTexts vs = ⟨e.entries ++ vs.map fun v => (Utf8.encode v.1, Utf8.encode v.2)⟩ := by
  induction vs generalizing e with
  | nil => simp [withTexts]
  | cons v vs ih =>
    obtain ⟨hv, hn⟩ := List.nodup_cons.1 hn
    have hset := set_of_new (Utf8.encode v.2) (h v List.mem_cons_self)
    have hstep : e.withTexts (v :: vs) =
        withTexts ⟨e.entries ++ [(Utf8.encode v.1, Utf8.encode v.2)]⟩ vs := by
      rw [← hset]
      rfl
    rw [hstep, ih _ hn, List.map_cons, List.append_assoc, List.singleton_append]
    intro x hx w hw
    rcases List.mem_append.1 hw with hw | hw
    · exact h x (List.mem_cons_of_mem _ hx) w hw
    · -- the variable that has just been set has another name than those to come
      rw [List.mem_singleton.1 hw]
      intro heq
      have hsame : v.1 = x.1 := Utf8.encode_inj heq
      exact hv (List.mem_map.2 ⟨x, hx, hsame.symm⟩)

/-- Neither a name nor a value holds the zero byte, at which it would end. -/
def IsPossible (e : Environment) : Prop := ∀ v ∈ e.entries, (0 : UInt8) ∉ v.1 ∧ (0 : UInt8) ∉ v.2

theorem zero_not_mem_encode {s : String} (h : '\x00' ∉ s.toList) :
    (0 : UInt8) ∉ Utf8.encode s := by
  intro hmem
  rcases Utf8.mem_encode hmem with ⟨c, hc, hzero⟩ | hlarge
  · have hnul : c = '\x00' := by
      rw [← Char.ofNat_toNat c, hzero]
      rfl
    exact h (hnul ▸ hc)
  · exact absurd hlarge (by decide)

theorem IsPossible.append {e : Environment} (he : e.IsPossible) {vs : List (String × String)}
    (h : ∀ v ∈ vs, '\x00' ∉ v.1.toList ∧ '\x00' ∉ v.2.toList) :
    IsPossible ⟨e.entries ++ vs.map fun v => (Utf8.encode v.1, Utf8.encode v.2)⟩ := by
  intro w hw
  rcases List.mem_append.1 hw with hw | hw
  · exact he w hw
  · obtain ⟨v, hv, rfl⟩ := List.mem_map.1 hw
    exact ⟨zero_not_mem_encode (h v hv).1, zero_not_mem_encode (h v hv).2⟩

end Environment

namespace Config

open Files (View)
open Environment (Names IsBelow LeadsOut lowered ownName?)
open Text

/-- The variable that gives a field. -/
def Field.variable : Field → String
  | .targetUrl => "PROBE_TARGET_URL"
  | .timeoutSecs => "PROBE_TIMEOUT_SECS"
  | .userAgent => "PROBE_USER_AGENT"

/-- The variables that give the fields of a configuration: its URL, and what else it has. -/
def variablesOf (c : Config) : List (String × String) :=
  (Field.targetUrl.variable, c.targetUrl.toText) ::
    ((c.timeoutSecs.map fun n => (Field.timeoutSecs.variable, n.toNat.repr)).toList ++
      (c.userAgent.map fun a => (Field.userAgent.variable, a)).toList)

/-- None of the variables begins as those of overrides do. -/
def NoneOfOurs (e : Environment) : Prop := ∀ v ∈ e.entries, ¬ BeginsAsOurs v.1

/-- A variable of ours gives its field and no other, and nothing inside one. -/
theorem names_variable_iff (f g : Field) (text : String) :
    Names start f.key (g.variable, text) ↔ f = g := by
  change Names start f.key (g.variable, "") ↔ f = g
  cases f <;> cases g <;> decide +kernel

theorem not_isBelow_variable (f g : Field) (text : String) :
    ¬ IsBelow start f.key (g.variable, text) := by
  change ¬ IsBelow start f.key (g.variable, "")
  cases f <;> cases g <;> decide +kernel

theorem not_leadsOut_variable (g : Field) (text : String) :
    ¬ LeadsOut start (g.variable, text) := by
  change ¬ LeadsOut start (g.variable, "")
  cases g <;> decide +kernel

theorem beginsAsOurs_variable (f : Field) : BeginsAsOurs (Utf8.encode f.variable) := by
  cases f <;> decide

theorem variable_ne_path (f : Field) : Utf8.encode pathVariable ≠ Utf8.encode f.variable := by
  cases f <;> decide

theorem exists_field_of_mem {c : Config} {v : String × String} (h : v ∈ variablesOf c) :
    ∃ (f : Field) (text : String), v = (f.variable, text) := by
  rw [variablesOf, List.mem_cons, List.mem_append, Option.mem_toList, Option.mem_toList] at h
  rcases h with rfl | h | h
  · exact ⟨_, _, rfl⟩
  · obtain ⟨n, -, rfl⟩ := Option.map_eq_some_iff.1 h
    exact ⟨_, _, rfl⟩
  · obtain ⟨a, -, rfl⟩ := Option.map_eq_some_iff.1 h
    exact ⟨_, _, rfl⟩

theorem nodup_variablesOf (c : Config) : ((variablesOf c).map (·.1)).Nodup := by
  cases ht : c.timeoutSecs <;> cases ha : c.userAgent <;>
    simp [variablesOf, ht, ha, Field.variable]

/-- The last text for each field is what the configuration has there. -/
theorem lastText_variablesOf (c : Config) :
    lastText (variablesOf c) .targetUrl = some c.targetUrl.toText ∧
      lastText (variablesOf c) .timeoutSecs = c.timeoutSecs.map (·.toNat.repr) ∧
      lastText (variablesOf c) .userAgent = c.userAgent := by
  cases ht : c.timeoutSecs <;> cases ha : c.userAgent <;>
    simp [lastText, variablesOf, ht, ha, names_variable_iff]

section

variable {e : Environment}

/-- Ours are new in an environment that has none of ours. -/
theorem withTexts_variablesOf (c : Config) (hno : NoneOfOurs e) :
    e.withTexts (variablesOf c) = ⟨e.entries ++
      (variablesOf c).map fun v => (Utf8.encode v.1, Utf8.encode v.2)⟩ := by
  apply Environment.withTexts_of_new e (nodup_variablesOf c)
  intro v hv w hw heq
  apply hno w hw
  obtain ⟨f, text, rfl⟩ := exists_field_of_mem hv
  rw [heq]
  exact beginsAsOurs_variable f

theorem ownName?_of_noneOfOurs (hno : NoneOfOurs e) {ws : List (String × String)}
    (hws : e.texts? = some ws) {v : String × String} (hv : v ∈ ws) : ownName? start v = none := by
  obtain ⟨w, hw, hwv⟩ := exists_of_mapM_eq_some (f := Environment.textOf?) hws hv
  have hname : w.1 = Utf8.encode v.1 := by
    rw [Environment.textOf?] at hwv
    split at hwv
    · next hn _ =>
      cases hwv
      exact (Utf8.encode_of_decode? hn).symm
    · cases hwv
  exact ownName?_of_foreign (hname ▸ hno w hw)

/-- Texts that are none of ours count for nothing. -/
theorem ofEnvironment_append (he : e.IsText) (hno : NoneOfOurs e) (vs : List (String × String)) :
    Overrides.ofEnvironment
        ⟨e.entries ++ vs.map fun v => (Utf8.encode v.1, Utf8.encode v.2)⟩ =
      Overrides.ofEnvironment ⟨vs.map fun v => (Utf8.encode v.1, Utf8.encode v.2)⟩ := by
  obtain ⟨ws, hws⟩ := he.texts?
  have hall := Environment.texts?_append e.entries
    (vs.map fun v => (Utf8.encode v.1, Utf8.encode v.2))
  rw [Environment.mapM_textOf?_encode,
    show e.entries.mapM Environment.textOf? = some ws from hws] at hall
  apply ofEnvironment_congr_own (Environment.mapM_textOf?_encode vs) hall
  have hnone : (ws.filter fun v => (ownName? start v).isSome) = [] := by
    rw [List.filter_eq_nil_iff]
    intro v hv
    simp [ownName?_of_noneOfOurs hno hws hv]
  rw [List.filter_append, hnone, List.nil_append]

theorem ofEnvironment_of_noneOfOurs (he : e.IsText) (hno : NoneOfOurs e) :
    Overrides.ofEnvironment e = .ok .none := by
  have h := ofEnvironment_append he hno []
  rw [List.map_nil, List.append_nil] at h
  exact h

/-- The overrides that are read are the fields of the configuration. -/
theorem ofEnvironment_withTexts (c : Config) (he : e.IsText) (hno : NoneOfOurs e) :
    Overrides.ofEnvironment (e.withTexts (variablesOf c)) =
      .ok ⟨some c.targetUrl.toText, c.timeoutSecs, c.userAgent⟩ := by
  have hinner : ¬ HasInner (variablesOf c) := by
    rintro ⟨f, v, hv, hb⟩
    obtain ⟨g, text, rfl⟩ := exists_field_of_mem hv
    exact not_isBelow_variable f g text hb
  have hlists : InLists (variablesOf c) := by
    intro v hv
    obtain ⟨g, text, rfl⟩ := exists_field_of_mem hv
    exact not_leadsOut_variable g text
  obtain ⟨hurl, htime, hagent⟩ := lastText_variablesOf c
  rw [withTexts_variablesOf c hno, ofEnvironment_append he hno,
    ofEnvironment_of_plain (Environment.mapM_textOf?_encode _) hlists hinner, hurl, htime, hagent]
  refine ⟨rfl, ?_, rfl⟩
  rw [Option.map_map]
  exact congrArg (Option.map · c.timeoutSecs) (funext secondsOf?_repr)

/-- The file of a run is the same with our variables as without. -/
theorem chosen_withTexts (c : Config) (hno : NoneOfOurs e) (args : List String) :
    chosen args (e.withTexts (variablesOf c)) = chosen args e := by
  have hlookup : ((variablesOf c).map fun v => (Utf8.encode v.1, Utf8.encode v.2)).lookup
      (Utf8.encode pathVariable) = none := by
    rw [List.lookup_eq_none_iff]
    intro w hw
    obtain ⟨v, hv, rfl⟩ := List.mem_map.1 hw
    obtain ⟨f, text, rfl⟩ := exists_field_of_mem hv
    simpa using variable_ne_path f
  cases args with
  | nil =>
    rw [chosen_nil, chosen_nil, Environment.text?, Environment.text?, Environment.get?,
      Environment.get?, withTexts_variablesOf c hno, List.lookup_append, hlookup, Option.or_none]
  | cons path rest => rfl

end

section

variable {files : View} {args : List String} {e : Environment}

/-- With overrides that can be had, loading lays them over what the file alone stands for. -/
theorem load_eq_ok_iff {o : Overrides} {p : Overlay} (ho : Overrides.ofEnvironment e = .ok o)
    (hp : o.overlay = .ok p) {c : Config} :
    load files args e = .ok c ↔
      ∃ b, loadSource files (chosen args e) = .ok b ∧ b.overlaid p = c ∧ c.Fit := by
  simp only [load_eq, ho, Except.bind_eq_ok_iff, Except.map_eq_ok_iff,
    Except.mapError_eq_ok_iff, Except.ok.injEq]
  constructor
  · rintro ⟨b, hb, _, rfl, b', hover, _, hv, rfl⟩
    obtain ⟨q, hq, rfl⟩ := override_eq_ok_iff.1 hover
    cases hp.symm.trans hq
    exact ⟨b, hb, rfl, validate_eq_ok_iff.1 hv⟩
  · rintro ⟨b, hb, rfl, hfit⟩
    exact ⟨b, hb, o, rfl, _, override_eq_ok_iff.2 ⟨p, hp, rfl⟩, (), validate_of_fit hfit, rfl⟩

/-- Without overrides that is the file alone. -/
theorem load_of_noneOfOurs (he : e.IsText) (hno : NoneOfOurs e) {c : Config} :
    load files args e = .ok c ↔ loadSource files (chosen args e) = .ok c ∧ c.Fit := by
  rw [load_eq_ok_iff (ofEnvironment_of_noneOfOurs he hno) (p := .none) rfl]
  constructor
  · rintro ⟨b, hb, rfl, hfit⟩
    exact ⟨hb, hfit⟩
  · intro h
    exact ⟨c, h.1, rfl, h.2⟩

variable {c : Config}

/-- The text of a configuration in a file brings it. -/
theorem load_of_file (hfit : c.Fit) (hu : Url.parse c.targetUrl.toText = .ok c.targetUrl)
    (he : e.IsText) (hno : NoneOfOurs e) {path : String} (rest : List String)
    (hpath : Format.ofPath path = .json)
    (hfile : files path = .ok (.file (Utf8.encode c.toJson.compact))) :
    load files (path :: rest) e = .ok c := by
  rw [load_of_noneOfOurs he hno]
  refine ⟨?_, hfit⟩
  change loadSource files (some path) = .ok c
  rw [loadSource_text hfile, hpath, parse_compact hfit hu]
  rfl

/-- Its variables bring the fields that it has, whatever lies below them. -/
theorem load_of_variables (hfit : c.Fit) (hu : Url.parse c.targetUrl.toText = .ok c.targetUrl)
    (he : e.IsText) (hno : NoneOfOurs e) {b : Config} (hb : load files args e = .ok b) :
    load files args (e.withTexts (variablesOf c)) =
      .ok ⟨c.targetUrl, c.timeoutSecs.or b.timeoutSecs, c.userAgent.or b.userAgent⟩ := by
  obtain ⟨hsource, hbfit⟩ := (load_of_noneOfOurs he hno).1 hb
  have hp : Overrides.overlay ⟨some c.targetUrl.toText, c.timeoutSecs, c.userAgent⟩ =
      .ok ⟨some c.targetUrl, c.timeoutSecs, c.userAgent⟩ := by
    rw [Overrides.overlay, Overrides.target]
    dsimp only
    rw [hu]
    rfl
  rw [load_eq_ok_iff (ofEnvironment_withTexts c he hno) hp, chosen_withTexts c hno]
  refine ⟨b, hsource, rfl, hfit.web, hfit.host, ?_⟩
  change c.timeoutSecs.or b.timeoutSecs ≠ some 0
  cases ht : c.timeoutSecs with
  | none => exact hbfit.time
  | some n =>
    have htime := hfit.time
    rw [ht] at htime
    exact htime

/-- A URL that its own text does not bring is told as such, on either way. -/
theorem load_of_file_of_error {cause : Url.Error}
    (hu : Url.parse c.targetUrl.toText = .error cause) {path : String} (rest : List String)
    (hpath : Format.ofPath path = .json)
    (hfile : files path = .ok (.file (Utf8.encode c.toJson.compact))) :
    ∃ err, load files (path :: rest) e = .error (.parse (.json c.toJson.compact err)) ∧
      err.cause = .invalidUrl cause c.targetUrl.toText := by
  obtain ⟨err, hparse, hcause⟩ := parse_compact_of_error hu
  refine ⟨err, ?_, hcause⟩
  have hsource : loadSource files (some path) =
      .error (.parse (.json c.toJson.compact err)) := by
    rw [loadSource_text hfile, hpath, hparse]
    rfl
  rw [load_eq, show chosen (path :: rest) e = some path from rfl, hsource]
  rfl

theorem load_of_variables_of_error {cause : Url.Error}
    (hu : Url.parse c.targetUrl.toText = .error cause) (he : e.IsText) (hno : NoneOfOurs e)
    {b : Config} (hb : load files args e = .ok b) :
    load files args (e.withTexts (variablesOf c)) =
      .error (.target ⟨c.targetUrl.toText, cause⟩) := by
  obtain ⟨hsource, -⟩ := (load_of_noneOfOurs he hno).1 hb
  have ho : Overrides.overlay ⟨some c.targetUrl.toText, c.timeoutSecs, c.userAgent⟩ =
      .error ⟨c.targetUrl.toText, cause⟩ := overlay_eq_error_iff.2 ⟨rfl, hu⟩
  rw [load_eq, chosen_withTexts c hno, hsource, ofEnvironment_withTexts c he hno]
  simp only [Except.bind, Except.mapError_ok, override_eq, ho, Except.map, Except.mapError_error]

end

/-- The variables of a configuration can be set: its URL is all visible, its timeout has only
digits, and its user agent has no zero. -/
theorem isPossible_withTexts {c : Config} (hu : c.targetUrl.IsRead)
    (hnul : ∀ a ∈ c.userAgent, '\x00' ∉ a.toList) {e : Environment} (hno : NoneOfOurs e)
    (he : e.IsPossible) : (e.withTexts (variablesOf c)).IsPossible := by
  rw [withTexts_variablesOf c hno]
  apply he.append
  have hname : ∀ f : Field, '\x00' ∉ f.variable.toList := by
    intro f
    cases f <;> decide
  intro v hv
  rw [variablesOf, List.mem_cons, List.mem_append, Option.mem_toList, Option.mem_toList] at hv
  rcases hv with rfl | hv | hv
  · refine ⟨hname .targetUrl, fun hmem => ?_⟩
    rw [Url.toText, String.toList_ofList] at hmem
    exact absurd (Url.isVisible_of_mem_toChars hu hmem) (by decide)
  · obtain ⟨n, -, rfl⟩ := Option.map_eq_some_iff.1 hv
    refine ⟨hname .timeoutSecs, fun hmem => ?_⟩
    rw [Nat.toList_repr] at hmem
    exact absurd (Nat.isDigit_of_mem_toDigits (by decide) (by decide) hmem) (by decide)
  · obtain ⟨a, ha, rfl⟩ := Option.map_eq_some_iff.1 hv
    exact ⟨hname .userAgent, hnul a ha⟩

/-- The two routes agree. A configuration that is fit for use comes back from a file with its
JSON text, and from its variables over the defaults; over any other file that can be loaded the
variables bring each field that it has, and the file the others. Only a name with too long a
code keeps the URL from coming back, and then it does so on both routes. The variables can be
set, since the user agent has no zero in it. -/
theorem routes_agree (c : Config) (htarget : IsTarget c.targetUrl) (hvalid : c.validate = .ok ())
    (hnul : ∀ a ∈ c.userAgent, '\x00' ∉ a.toList) (files : View) (e : Environment)
    (he : e.IsText) (hno : NoneOfOurs e) :
    (e.IsPossible → (e.withTexts (variablesOf c)).IsPossible) ∧
    (c.targetUrl.IsReadable →
      (∀ path rest, Format.ofPath path = .json →
        files path = .ok (.file (Utf8.encode c.toJson.compact)) →
          load files (path :: rest) e = .ok c) ∧
      (Chooses [] e none → load files [] (e.withTexts (variablesOf c)) = .ok c) ∧
      ∀ args b, load files args e = .ok b → load files args (e.withTexts (variablesOf c)) =
        .ok ⟨c.targetUrl, c.timeoutSecs.or b.timeoutSecs, c.userAgent.or b.userAgent⟩) ∧
    (¬ c.targetUrl.IsReadable →
      (∀ path rest, Format.ofPath path = .json →
        files path = .ok (.file (Utf8.encode c.toJson.compact)) →
          ∃ err, load files (path :: rest) e = .error (.parse (.json c.toJson.compact err)) ∧
            err.cause = .invalidUrl .invalidInternationalName c.targetUrl.toText) ∧
      ∀ args b, load files args e = .ok b → load files args (e.withTexts (variablesOf c)) =
        .error (.target ⟨c.targetUrl.toText, .invalidInternationalName⟩)) := by
  have hfit := validate_eq_ok_iff.1 hvalid
  have hread := isRead_of_isTarget htarget hfit.web
  refine ⟨isPossible_withTexts hread hnul hno, ?_, ?_⟩
  · intro hr
    have hu := Url.parse_toText_of_readable hread hr
    refine ⟨fun path rest hpath hfile => load_of_file hfit hu he hno rest hpath hfile, ?_,
      fun args b hb => load_of_variables hfit hu he hno hb⟩
    intro hnothing
    have hdefault : load files [] e = .ok default := by
      rw [load_of_noneOfOurs he hno, chooses_iff.1 hnothing]
      exact ⟨rfl, validate_eq_ok_iff.1 rfl⟩
    rw [load_of_variables hfit hu he hno hdefault]
    simp [default]
  · intro hr
    have hu := Url.parse_toText_of_not_readable hread hr
    exact ⟨fun path rest hpath hfile => load_of_file_of_error hu rest hpath hfile,
      fun args b hb => load_of_variables_of_error hu he hno hb⟩

/-- A time limit and a name with a line break in it go both ways, beside another variable, and
over a file with a name of its own. -/
theorem routes_agree_named :
    let c : Config := ⟨defaultTarget, some 7, some "a\nb"⟩
    let d : Config := ⟨defaultTarget, none, some "d"⟩
    let e : Environment := ⟨[(Utf8.encode "HOME", Utf8.encode "/root")]⟩
    let tree : Files.Node := .directory [("c.json", .file (Utf8.encode c.toJson.compact)),
      ("d.json", .file (Utf8.encode d.toJson.compact))]
    IsTarget c.targetUrl ∧ c.validate = .ok () ∧ (∀ a ∈ c.userAgent, '\x00' ∉ a.toList) ∧
      e.IsText ∧ NoneOfOurs e ∧ (e.withTexts (variablesOf c)).IsPossible ∧
      c.targetUrl.IsReadable ∧ Format.ofPath "c.json" = .json ∧
      load tree.view ["c.json"] e = .ok c ∧
      load tree.view [] (e.withTexts (variablesOf c)) = .ok c ∧
      load tree.view ["d.json"] e = .ok d ∧
      load tree.view ["d.json"] (e.withTexts (variablesOf ⟨defaultTarget, some 7, none⟩)) =
        .ok ⟨defaultTarget, some 7, some "d"⟩ := by
  intro c d e tree
  have he : e.IsText := by
    intro v hv
    rw [List.mem_singleton.1 hv]
    exact ⟨⟨"HOME", rfl⟩, "/root", rfl⟩
  have hno : NoneOfOurs e := by
    intro v hv
    rw [List.mem_singleton.1 hv]
    decide
  have hc : tree.view "c.json" = .ok (.file (Utf8.encode c.toJson.compact)) := rfl
  have hd : tree.view "d.json" = .ok (.file (Utf8.encode d.toJson.compact)) := rfl
  have hnothing : Chooses [] e none := chooses_iff.2 rfl
  have hnul : ∀ a ∈ c.userAgent, '\x00' ∉ a.toList := by
    rintro a ⟨⟩
    decide
  have hnuld : ∀ a ∈ d.userAgent, '\x00' ∉ a.toList := by
    rintro a ⟨⟩
    decide
  have hp : e.IsPossible := by
    intro v hv
    rw [List.mem_singleton.1 hv]
    exact ⟨by decide, by decide⟩
  obtain ⟨hset, hroutes, -⟩ := routes_agree c isTarget_default rfl hnul tree.view e he hno
  obtain ⟨hfrom, hover, -⟩ := hroutes isReadable_defaultTarget
  have hbelow := ((routes_agree d isTarget_default rfl hnuld tree.view e he hno).2.1
    isReadable_defaultTarget).1 "d.json" [] rfl hd
  have hlaid := ((routes_agree ⟨defaultTarget, some 7, none⟩ isTarget_default rfl
    (fun a ha => nomatch ha) tree.view e he hno).2.1 isReadable_defaultTarget).2.2 ["d.json"] d hbelow
  exact ⟨isTarget_default, rfl, hnul, he, hno, hset hp, isReadable_defaultTarget, rfl,
    hfrom "c.json" [] rfl hc, hover hnothing, hbelow, hlaid⟩

/-- A configuration whose URL names 700 ideographs is fit for use and comes back on neither
route. -/
theorem routes_lose_long_name :
    ∃ c : Config, IsTarget c.targetUrl ∧ c.validate = .ok () ∧ c.userAgent = none ∧
      (∀ (files : View) (path : String), Format.ofPath path = .json →
        files path = .ok (.file (Utf8.encode c.toJson.compact)) →
          load files [path] ⟨[]⟩ ≠ .ok c) ∧
      ∀ files : View, load files [] (Environment.withTexts ⟨[]⟩ (variablesOf c)) ≠ .ok c := by
  have hu := parse_toText_longUrl
  have hempty : Environment.IsText ⟨[]⟩ := fun v hv => nomatch hv
  have hno : NoneOfOurs ⟨[]⟩ := fun v hv => nomatch hv
  refine ⟨⟨Url.longUrl, none, none⟩, isTarget_longUrl, validate_of_fit fit_longUrl, rfl, ?_, ?_⟩
  · intro files path hpath hfile h
    obtain ⟨err, herr, -⟩ :=
      load_of_file_of_error (c := ⟨Url.longUrl, none, none⟩) (e := ⟨[]⟩) hu [] hpath hfile
    rw [herr] at h
    cases h
  · intro files h
    have hdefault : load files [] ⟨[]⟩ = .ok default := rfl
    rw [load_of_variables_of_error (c := ⟨Url.longUrl, none, none⟩) hu hempty hno hdefault] at h
    cases h

end Config

end Liveness
