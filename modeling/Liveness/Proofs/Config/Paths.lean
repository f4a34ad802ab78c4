import Liveness.Proofs.Config.Layers
import Liveness.Proofs.Files.Walk

/-! The path of a configuration file. Paths that lead to one file bring the same configuration or
the same error, however they are written, since the format goes by the name of the file. A path
is resolved exactly if reading does not end on the way to what it leads to. -/

namespace Liveness.Config

open Files (FileError Node Reaches View)
open Text

/-- The names of files in YAML. -/
def IsYamlName (name : String) : Prop :=
  ∃ stem, stem ≠ "" ∧ (name = stem ++ ".yaml" ∨ name = stem ++ ".yml")

theorem ofPath_eq_yaml_iff {path : String} :
    Format.ofPath path = .yaml ↔
      ∃ ext ∈ [['y', 'a', 'm', 'l'], ['y', 'm', 'l']],
        (Files.fileName? path).bind Files.extension? = some ext := by
  rw [Format.ofPath]
  generalize (Files.fileName? path).bind Files.extension? = ext
  constructor
  · intro h
    split at h
    · exact ⟨_, List.mem_cons_self, rfl⟩
    · exact ⟨_, List.mem_cons_of_mem _ List.mem_cons_self, rfl⟩
    · cases h
  · rintro ⟨x, hx, rfl⟩
    rw [List.mem_cons, List.mem_singleton] at hx
    rcases hx with rfl | rfl <;> rfl

theorem extension?_yaml_iff {name : String} :
    (∃ ext ∈ [['y', 'a', 'm', 'l'], ['y', 'm', 'l']],
      Files.extension? name.toList = some ext) ↔ IsYamlName name := by
  have hdot : ∀ ext ∈ [['y', 'a', 'm', 'l'], ['y', 'm', 'l']], '.' ∉ ext := by decide
  constructor
  · rintro ⟨ext, hext, h⟩
    obtain ⟨-, stem, hstem, hname⟩ := Files.extension?_eq_some_iff.1 h
    refine ⟨String.ofList stem, fun he => hstem ?_, ?_⟩
    · rw [← String.toList_ofList (l := stem), he]
      rfl
    · rw [List.mem_cons, List.mem_singleton] at hext
      rcases hext with rfl | rfl
      · exact .inl (String.toList_inj.1 (by simp [hname]))
      · exact .inr (String.toList_inj.1 (by simp [hname]))
  · rintro ⟨stem, hstem, rfl | rfl⟩
    · refine ⟨_, List.mem_cons_self, Files.extension?_eq_some_iff.2
        ⟨hdot _ List.mem_cons_self, stem.toList, mt String.toList_eq_nil_iff.1 hstem, ?_⟩⟩
      simp
    · refine ⟨_, List.mem_cons_of_mem _ List.mem_cons_self, Files.extension?_eq_some_iff.2
        ⟨hdot _ (List.mem_cons_of_mem _ List.mem_cons_self), stem.toList,
          mt String.toList_eq_nil_iff.1 hstem, ?_⟩⟩
      simp

/-- The format of a path that ends with a name goes by that name. -/
theorem ofPath_of_fileName? {path name : String}
    (h : Files.fileName? path = some name.toList) :
    Format.ofPath path = .yaml ↔ IsYamlName name := by
  rw [ofPath_eq_yaml_iff, h, ← extension?_yaml_iff]
  rfl

section

variable {root : Node} {p q : String} {names : List String} {contents : Bytes}

/-- Only what stands at the path and the format count. -/
theorem loadFile_congr {files : View} (hentry : files p = files q)
    (hformat : Format.ofPath p = Format.ofPath q) : loadFile files p = loadFile files q := by
  rw [loadFile, loadFile, View.readText, View.readText, hentry, hformat]

/-- However a path is written, what it brings is up to the file that it leads to, and the format
to the name of that file. -/
theorem load_of_spelling (hp : Reaches root p names contents)
    (hq : Reaches root q names contents) :
    loadFile root.view p = loadFile root.view q ∧
      ∃ name, names.getLast? = some name ∧
        (Format.ofPath p = .yaml ↔ IsYamlName name) ∧
        (Format.ofPath q = .yaml ↔ IsYamlName name) := by
  obtain ⟨name, hname, hpn⟩ := hp.fileName?
  obtain ⟨name', hname', hqn⟩ := hq.fileName?
  cases hname.symm.trans hname'
  have hformat : Format.ofPath p = Format.ofPath q := by
    rw [Format.ofPath, hpn, Format.ofPath, hqn]
  exact ⟨loadFile_congr (hp.view.trans hq.view.symm) hformat, name, hname,
    ofPath_of_fileName? hpn, ofPath_of_fileName? hqn⟩

end

/-- A way through another directory and stays in place lead to the same file, and a file that is
called by nothing but an extension is no YAML file. -/
theorem load_of_spelling_detour :
    let root : Node := .directory [("a", .directory []), ("b", .directory
      [("c.yaml", .file (Utf8.encode "timeout_secs: 3")), (".yaml", .file (Utf8.encode "3"))])]
    Reaches root "b/c.yaml" ["b", "c.yaml"] (Utf8.encode "timeout_secs: 3") ∧
      Reaches root "a/..//./b/c.yaml" ["b", "c.yaml"] (Utf8.encode "timeout_secs: 3") ∧
      loadFile root.view "b/c.yaml" = loadFile root.view "a/..//./b/c.yaml" ∧
      Format.ofPath "a/..//./b/c.yaml" = .yaml ∧ IsYamlName "c.yaml" ∧ ¬ IsYamlName ".yaml" := by
  intro root
  have hdirect : Reaches root "b/c.yaml" ["b", "c.yaml"] (Utf8.encode "timeout_secs: 3") :=
    ⟨rfl, rfl⟩
  have hdetour : Reaches root "a/..//./b/c.yaml" ["b", "c.yaml"]
      (Utf8.encode "timeout_secs: 3") := ⟨rfl, rfl⟩
  have hdot : Reaches root "b/.yaml" ["b", ".yaml"] (Utf8.encode "3") := ⟨rfl, rfl⟩
  obtain ⟨hload, name, hname, -, hformat⟩ := load_of_spelling hdirect hdetour
  cases hname
  obtain ⟨-, name, hname, hyaml, -⟩ := load_of_spelling hdot hdot
  cases hname
  exact ⟨hdirect, hdetour, hload, rfl, hformat.1 rfl, fun h => nomatch hyaml.2 h⟩

section

variable {root : Node} {path : String} {cause : FileError}

theorem view_eq_error_iff : root.view path = .error cause ↔ Files.walk root path = .error cause :=
  Except.map_eq_error_iff

theorem readText_eq_error_iff {files : View} :
    files.readText path = .error cause ↔ files path = .error cause ∨
      (cause = .isDirectory ∧ files path = .ok .directory) ∨
      (cause = .notText ∧ ∃ bytes, files path = .ok (.file bytes) ∧
        ∀ text, Utf8.encode text ≠ bytes) ∨
      ∃ reason, cause = .unreadable reason ∧ files path = .ok (.unreadable reason) := by
  rw [View.readText]
  cases hf : files path with
  | error e => simp
  | ok entry =>
    cases entry with
    | directory => simp [eq_comm]
    | unreadable reason => simp [eq_comm]
    | file bytes =>
      have hdecode : Utf8.decode? bytes = none ↔ ∀ text, Utf8.encode text ≠ bytes := by
        simp only [Option.eq_none_iff_forall_ne_some, ne_eq, Utf8.decode?_eq_some_iff]
      dsimp only
      split
      · next text htext => simp [← hdecode, htext]
      · next hnone =>
        rw [Except.error.injEq]
        constructor
        · rintro rfl
          exact .inr (.inr (.inl ⟨rfl, bytes, rfl, hdecode.1 hnone⟩))
        · rintro (h | ⟨-, h⟩ | ⟨rfl, -⟩ | ⟨_, -, h⟩)
          · cases h
          · cases h
          · rfl
          · cases h

theorem loadFile_eq_file_iff {files : View} :
    loadFile files path = .error (.file cause) ↔ files.readText path = .error cause := by
  rw [loadFile]
  cases files.readText path with
  | error e => simp [Except.bind]
  | ok text => simp [Except.bind]

/-- Whatever is in a tree can be read. -/
theorem view_ne_unreadable (reason : String) : root.view path ≠ .ok (.unreadable reason) := by
  intro h
  obtain ⟨place, -, hentry⟩ := Except.map_eq_ok_iff.1 h
  cases hnode : place.node? root with
  | none =>
    rw [hnode] at hentry
    cases hentry
  | some node =>
    rw [hnode] at hentry
    cases node <;> cases hentry

/-- Reading ends in a dead end exactly if the walk does. -/
theorem exists_isDeadEnd_iff :
    (∃ cause : FileError, cause.IsDeadEnd ∧ loadFile root.view path = .error (.file cause)) ↔
      root.view.hasEntry path = false := by
  simp only [loadFile_eq_file_iff]
  rw [View.hasEntry]
  cases hview : root.view path with
  | error e =>
    have hdead := Files.isDeadEnd_of_walk (view_eq_error_iff.1 hview)
    simp only [iff_true]
    exact ⟨e, hdead, readText_eq_error_iff.2 (.inl hview)⟩
  | ok entry =>
    simp only [Bool.true_eq_false, iff_false]
    rintro ⟨cause, hdead, hread⟩
    obtain ⟨hdirectory, htext, hreadable⟩ := FileError.isDeadEnd_iff.1 hdead
    rcases readText_eq_error_iff.1 hread with h | ⟨h, -⟩ | ⟨h, -⟩ | ⟨reason, h, -⟩
    · rw [hview] at h
      cases h
    · exact hdirectory h
    · exact htext h
    · exact hreadable reason h

/-- A path is resolved, and then to itself, exactly if reading the file does not end on the way
to it; a run that has resolved its path can only find a directory there, or a file that is no
text. -/
theorem resolves_iff_reads (root : Node) (path : String) :
    (∀ lookup : String → Id (Option String),
      ((Id.run (resolvePath root.view lookup [path]) = .ok (some path) ↔
        ¬ ∃ cause : FileError,
          cause.IsDeadEnd ∧ loadFile root.view path = .error (.file cause)) ∧
      (Id.run (resolvePath root.view lookup [path]) = .error (.noFile path) ↔
        ∃ cause : FileError,
          cause.IsDeadEnd ∧ loadFile root.view path = .error (.file cause)))) ∧
    ∀ args e cause, load root.view args e = .error (.file cause) ↔
      ∃ p, Chooses args e (some p) ∧
        ((cause = .isDirectory ∧ root.view p = .ok .directory) ∨
          (cause = .notText ∧ ∃ bytes, root.view p = .ok (.file bytes) ∧
            ∀ text, Utf8.encode text ≠ bytes)) := by
  refine ⟨fun lookup => ?_, fun args e cause => ⟨fun h => ?_, ?_⟩⟩
  · have hresolve : Id.run (resolvePath root.view lookup [path]) =
        if root.view.hasEntry path then .ok (some path) else .error (.noFile path) := rfl
    rw [hresolve, exists_isDeadEnd_iff]
    cases root.view.hasEntry path <;> simp
  · cases stops_of_load h with
    | file hc hw =>
      cases hw with
      | directory hf => exact ⟨_, hc, .inl ⟨rfl, hf⟩⟩
      | notText hf hb => exact ⟨_, hc, .inr ⟨rfl, _, hf, hb⟩⟩
      | unreadable hf => exact absurd hf (view_ne_unreadable _)
  · rintro ⟨p, hc, ⟨rfl, hf⟩ | ⟨rfl, bytes, hf, hb⟩⟩
    · exact (Stops.file hc (.directory hf)).load
    · exact (Stops.file hc (.notText hf hb)).load

end

end Liveness.Config
