import Liveness.Config.Load
import Liveness.Proofs.Config.Fitness
import Liveness.Proofs.Config.Overlay

/-! The layers of a run's configuration: what the environment gives lies over what the
chosen file gives, and that over the defaults. Loading stops at the first layer that cannot
be had. -/

namespace Liveness.Config

open Files (View)
open Text

/-- The path that is chosen: the first argument, even an empty one. Without arguments it is
the value of the variable, unless that is empty. -/
inductive Chooses (args : List String) (e : Environment) : Option String → Prop
  | argument {path : String} {rest : List String} : args = path :: rest →
      Chooses args e (some path)
  | setting {path : String} : args = [] → e.text? pathVariable = some path → path ≠ "" →
      Chooses args e (some path)
  | nothing : args = [] → (∀ path, e.text? pathVariable = some path → path = "") →
      Chooses args e none

/-- The fields that the chosen file gives. They have to be fit for use with nothing but the
defaults below them, even those that something lies over. -/
inductive Gives (files : View) : Option String → Draft → Prop
  | nothing : Gives files none .empty
  | file {path text : String} {d : Draft} : files path = .ok (.file (Utf8.encode text)) →
      Draft.read (.ofPath path) text = .ok d → d.finish.Fit → Gives files (some path) d

/-- What keeps the chosen file from giving its fields. -/
inductive Withholds (files : View) : Option String → LoadError → Prop
  | noFile {path : String} {cause : Files.FileError} : files path = .error cause →
      Withholds files (some path) (.noFile path)
  | directory {path : String} : files path = .ok .directory →
      Withholds files (some path) (.file .isDirectory)
  | notText {path : String} {bytes : Bytes} : files path = .ok (.file bytes) →
      (∀ text, Utf8.encode text ≠ bytes) → Withholds files (some path) (.file .notText)
  | unreadable {path reason : String} : files path = .ok (.unreadable reason) →
      Withholds files (some path) (.file (.unreadable reason))
  | parse {path text : String} {cause : ParseError} :
      files path = .ok (.file (Utf8.encode text)) → parse (.ofPath path) text = .error cause →
      Withholds files (some path) (.parse cause)

/-- Each field from the first layer that gives it. A field that a file sets to `null` is not
given. -/
def layered (d : Draft) (p : Overlay) : Config :=
  ⟨(p.targetUrl.or d.targetUrl).getD defaultTarget, p.timeoutSecs.or d.timeoutSecs.join,
    p.userAgent.or d.userAgent.join⟩

/-- Every layer can be had, and together they are fit for use. -/
inductive Loads (files : View) (args : List String) (e : Environment) : Config → Prop
  | intro {path : Option String} {d : Draft} {o : Overrides} {p : Overlay} :
      Chooses args e path → Gives files path d → Overrides.ofEnvironment e = .ok o →
      o.overlay = .ok p → (layered d p).Fit → Loads files args e (layered d p)

/-- Where loading stops; all stages before have been passed. -/
inductive Stops (files : View) (args : List String) (e : Environment) : LoadError → Prop
  | file {path : Option String} {err : LoadError} : Chooses args e path →
      Withholds files path err → Stops files args e err
  | environment {path : Option String} {d : Draft} {cause : EnvironmentError} :
      Chooses args e path → Gives files path d → Overrides.ofEnvironment e = .error cause →
      Stops files args e (.environment cause)
  | target {path : Option String} {d : Draft} {o : Overrides} {cause : BadTarget} :
      Chooses args e path → Gives files path d → Overrides.ofEnvironment e = .ok o →
      o.targetUrl = some cause.text → Url.parse cause.text = .error cause.cause →
      Stops files args e (.target cause)
  | unfit {path : Option String} {d : Draft} {o : Overrides} {p : Overlay} {cause : Unfit} :
      Chooses args e path → Gives files path d → Overrides.ofEnvironment e = .ok o →
      o.overlay = .ok p → Lacks (layered d p) cause → Stops files args e (.unfit cause)

/-- The path that arguments and environment choose. -/
def chosen (args : List String) (e : Environment) : Option String :=
  Id.run (chosenPath? (fun name => pure (e.text? name)) args)

theorem chosen_nil (e : Environment) :
    chosen [] e = (e.text? pathVariable).filter (· ≠ "") := rfl

theorem chooses_iff {args : List String} {e : Environment} {path : Option String} :
    Chooses args e path ↔ chosen args e = path := by
  cases args with
  | cons p ps =>
    constructor
    · rintro (h | h | h) <;> cases h
      rfl
    · rintro rfl
      exact .argument rfl
  | nil =>
    rw [chosen_nil]
    constructor
    · rintro (h | ⟨-, h, hne⟩ | ⟨-, h⟩)
      · cases h
      · simp [h, hne]
      · cases ht : e.text? pathVariable with
        | none => rfl
        | some p => simp [h p ht]
    · rintro rfl
      cases ht : e.text? pathVariable with
      | none => exact .nothing rfl (by simp [ht])
      | some p =>
        by_cases hp : p = ""
        · have hf : (some p).filter (· ≠ "") = none := by simp [hp]
          rw [hf]
          exact .nothing rfl (by simp [ht, hp])
        · have hf : (some p).filter (· ≠ "") = some p := by simp [hp]
          rw [hf]
          exact .setting rfl ht hp

/-- The configuration that the chosen file alone stands for. -/
def loadSource (files : View) (path : Option String) : Except LoadError Config :=
  (checkPath files path).bind (loadChosen files)

theorem loadSource_none (files : View) : loadSource files none = .ok default := rfl

theorem loadSource_error {files : View} {path : String} {cause : Files.FileError}
    (h : files path = .error cause) : loadSource files (some path) = .error (.noFile path) := by
  simp [loadSource, checkPath, View.hasEntry, h, Except.bind]

theorem loadSource_directory {files : View} {path : String} (h : files path = .ok .directory) :
    loadSource files (some path) = .error (.file .isDirectory) := by
  simp [loadSource, checkPath, View.hasEntry, loadChosen, loadFile, View.readText, h,
    Except.bind]

theorem loadSource_unreadable {files : View} {path reason : String}
    (h : files path = .ok (.unreadable reason)) :
    loadSource files (some path) = .error (.file (.unreadable reason)) := by
  simp [loadSource, checkPath, View.hasEntry, loadChosen, loadFile, View.readText, h,
    Except.bind]

theorem loadSource_notText {files : View} {path : String} {bytes : Bytes}
    (h : files path = .ok (.file bytes)) (hb : ∀ text, Utf8.encode text ≠ bytes) :
    loadSource files (some path) = .error (.file .notText) := by
  have hd : Utf8.decode? bytes = none := by
    cases hd : Utf8.decode? bytes with
    | none => rfl
    | some text => exact absurd (Utf8.encode_of_decode? hd) (hb text)
  simp [loadSource, checkPath, View.hasEntry, loadChosen, loadFile, View.readText, h, hd,
    Except.bind]

theorem loadSource_text {files : View} {path text : String}
    (h : files path = .ok (.file (Utf8.encode text))) :
    loadSource files (some path) = (parse (.ofPath path) text).mapError .parse := by
  simp [loadSource, checkPath, View.hasEntry, loadChosen, loadFile, View.readText, h,
    Utf8.decode?_encode, Except.bind]

theorem Gives.loadSource {files : View} {path : Option String} {d : Draft}
    (h : Gives files path d) : loadSource files path = .ok d.finish := by
  cases h with
  | nothing => exact loadSource_none files
  | file hf hd hfit =>
    rw [loadSource_text hf, Except.mapError_eq_ok_iff]
    exact parse_eq_ok_iff.2 ⟨d, hd, rfl, hfit⟩

theorem Withholds.loadSource {files : View} {path : Option String} {err : LoadError}
    (h : Withholds files path err) : loadSource files path = .error err := by
  cases h with
  | noFile hf => exact loadSource_error hf
  | directory hf => exact loadSource_directory hf
  | notText hf hb => exact loadSource_notText hf hb
  | unreadable hf => exact loadSource_unreadable hf
  | parse hf hp => rw [loadSource_text hf, hp]; rfl

/-- A chosen file gives its fields or something keeps it from that. -/
theorem gives_or_withholds (files : View) (path : Option String) :
    (∃ d, Gives files path d) ∨ ∃ err, Withholds files path err := by
  cases path with
  | none => exact .inl ⟨_, .nothing⟩
  | some path =>
    cases hf : files path with
    | error cause => exact .inr ⟨_, .noFile hf⟩
    | ok entry =>
      cases entry with
      | directory => exact .inr ⟨_, .directory hf⟩
      | unreadable reason => exact .inr ⟨_, .unreadable hf⟩
      | file bytes =>
        by_cases hb : ∃ text, Utf8.encode text = bytes
        · obtain ⟨text, rfl⟩ := hb
          cases hp : parse (.ofPath path) text with
          | error cause => exact .inr ⟨_, .parse hf hp⟩
          | ok c =>
            obtain ⟨d, hd, rfl, hfit⟩ := parse_eq_ok_iff.1 hp
            exact .inl ⟨d, .file hf hd hfit⟩
        · exact .inr ⟨_, .notText hf (not_exists.1 hb)⟩

theorem finish_overlaid (d : Draft) (p : Overlay) : d.finish.overlaid p = layered d p := by
  simp only [Draft.finish, overlaid, layered, Config.mk.injEq]
  refine ⟨?_, ?_, ?_⟩
  · cases p.targetUrl <;> rfl
  · cases d.timeoutSecs <;> rfl
  · cases d.userAgent <;> rfl

theorem load_eq (files : View) (args : List String) (e : Environment) :
    load files args e = (loadSource files (chosen args e)).bind fun c =>
      ((Overrides.ofEnvironment e).mapError .environment).bind fun o =>
      ((c.override o).mapError .target).bind fun c =>
      (c.validate.mapError .unfit).map fun _ => c := by
  unfold load loadSource
  show (checkPath files (chosen args e) >>= _) = _
  cases checkPath files (chosen args e) with
  | error err => rfl
  | ok path =>
    show (loadChosen files path >>= _) = (loadChosen files path).bind _
    cases loadChosen files path with
    | error err => rfl
    | ok c => rfl

section Stages

variable {files : View} {args : List String} {e : Environment}

/-- Behind the file, loading goes on with the environment. -/
theorem load_of_gives {path : Option String} {d : Draft} (hc : Chooses args e path)
    (hg : Gives files path d) :
    load files args e = ((Overrides.ofEnvironment e).mapError .environment).bind fun o =>
      (o.overlay.mapError .target).bind fun p =>
      ((layered d p).validate.mapError .unfit).map fun _ => layered d p := by
  rw [load_eq, chooses_iff.1 hc, hg.loadSource]
  show ((Overrides.ofEnvironment e).mapError LoadError.environment).bind _ = _
  congr 1
  funext o
  rw [override_eq]
  cases o.overlay with
  | error cause => rfl
  | ok p => simp [Except.map, Except.bind, finish_overlaid]

theorem Loads.load {c : Config} (h : Loads files args e c) : load files args e = .ok c := by
  obtain ⟨hc, hg, he, ho, hf⟩ := h
  rw [load_of_gives hc hg, he]
  simp only [Except.mapError_ok, Except.bind, ho, validate_of_fit hf]
  rfl

theorem Stops.load {err : LoadError} (h : Stops files args e err) :
    load files args e = .error err := by
  cases h with
  | file hc hw => rw [load_eq, chooses_iff.1 hc, hw.loadSource]; rfl
  | environment hc hg he => rw [load_of_gives hc hg, he]; rfl
  | target hc hg he ht hp =>
    rw [load_of_gives hc hg, he]
    simp only [Except.mapError_ok, Except.mapError_error, Except.bind,
      overlay_eq_error_iff.2 ⟨ht, hp⟩]
  | unfit hc hg he ho hl =>
    rw [load_of_gives hc hg, he]
    simp only [Except.mapError_ok, Except.mapError_error, Except.bind, ho, validate_of_lacks hl]
    rfl

theorem loads_or_stops (files : View) (args : List String) (e : Environment) :
    (∃ c, Loads files args e c) ∨ ∃ err, Stops files args e err := by
  have hc : Chooses args e (chosen args e) := chooses_iff.2 rfl
  rcases gives_or_withholds files (chosen args e) with ⟨d, hg⟩ | ⟨err, hw⟩
  · cases he : Overrides.ofEnvironment e with
    | error cause => exact .inr ⟨_, .environment hc hg he⟩
    | ok o =>
      cases ho : o.overlay with
      | error cause =>
        obtain ⟨ht, hp⟩ := overlay_eq_error_iff.1 ho
        exact .inr ⟨_, .target hc hg he ht hp⟩
      | ok p =>
        rcases fit_or_lacks (layered d p) with hf | ⟨u, hl⟩
        · exact .inl ⟨_, .intro hc hg he ho hf⟩
        · exact .inr ⟨_, .unfit hc hg he ho hl⟩
  · exact .inr ⟨err, .file hc hw⟩

theorem loads_of_load {c : Config} (h : load files args e = .ok c) : Loads files args e c := by
  rcases loads_or_stops files args e with ⟨c', hl⟩ | ⟨err, hs⟩
  · rw [hl.load] at h
    cases h
    exact hl
  · rw [hs.load] at h
    cases h

theorem stops_of_load {err : LoadError} (h : load files args e = .error err) :
    Stops files args e err := by
  rcases loads_or_stops files args e with ⟨c, hl⟩ | ⟨err', hs⟩
  · rw [hl.load] at h
    cases h
  · rw [hs.load] at h
    cases h
    exact hs

end Stages

/-- Loading yields a configuration exactly if every layer can be had and together they are
fit for use, and then each field comes from the first layer that gives it. Otherwise it
fails with what is wrong at the first stage that cannot be passed. The view of the files may
be that of any tree. -/
theorem load_layers (files : View) (args : List String) (e : Environment) :
    (∀ c, load files args e = .ok c ↔ Loads files args e c) ∧
    (∀ err, load files args e = .error err ↔ Stops files args e err) ∧
    layered .empty .none = default ∧ default.targetUrl.toText = "http://localhost:22313/" := by
  refine ⟨fun c => ⟨loads_of_load, Loads.load⟩, fun err => ⟨stops_of_load, Stops.load⟩, rfl, ?_⟩
  decide

end Liveness.Config
