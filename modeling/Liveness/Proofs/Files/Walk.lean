import Liveness.Files.Tree
import Liveness.Proofs.Except
import Liveness.Proofs.Url.Split

/-! Walks along a path. A walk that comes to a file has made its last step by the name of that
file, so that the name at the end of the path is the file's. A walk that comes to nothing fails
in one of four ways, none of which is a failure to read. -/

namespace Liveness.Files

open Text

theorem Node.at?_append (n : Node) (names : List String) (name : String) :
    n.at? (names ++ [name]) = (n.at? names).bind fun c => c.child? name := by
  induction names generalizing n with
  | nil =>
    change (n.child? name).bind (fun c => c.at? []) = n.child? name
    cases n.child? name <;> rfl
  | cons x names ih =>
    change (n.child? x).bind (fun c => c.at? (names ++ [name])) =
      ((n.child? x).bind fun c => c.at? names).bind _
    cases n.child? x with
    | none => rfl
    | some c => exact ih c

/-- What has something in it is a directory. -/
theorem Node.isDirectory_of_child? {n c : Node} {name : String} (h : n.child? name = some c) :
    n.isDirectory = true := by
  cases n with
  | file contents => cases h
  | directory children => rfl

variable {root : Node} {here place : Place} {part : List Char}

/-- A directory stands at a place. -/
def Place.IsDirectory (root : Node) (place : Place) : Prop :=
  ∃ n, place.node? root = some n ∧ n.isDirectory = true

theorem Place.isDirectory_iff :
    place.IsDirectory root ↔ (place.node? root).any Node.isDirectory = true := by
  rw [Place.IsDirectory]
  cases place.node? root <;> simp

/-- What is around a directory is one. -/
theorem Place.IsDirectory.parent (h : here.IsDirectory root) : here.parent.IsDirectory root := by
  cases here with
  | outside => exact ⟨.empty, rfl, rfl⟩
  | inside names =>
    cases names with
    | nil => exact ⟨.empty, rfl, rfl⟩
    | cons x xs =>
      obtain ⟨n, hn, -⟩ := h
      change root.at? (x :: xs) = some n at hn
      rw [← List.dropLast_concat_getLast (List.cons_ne_nil x xs), Node.at?_append] at hn
      obtain ⟨c, hc, hchild⟩ := Option.bind_eq_some_iff.1 hn
      exact ⟨c, hc, Node.isDirectory_of_child? hchild⟩

/-- A part of a path that is the name of something, and not a stay or a way up. -/
structure IsName (part : List Char) : Prop where
  ne_nil : part ≠ []
  ne_here : part ≠ ['.']
  ne_up : part ≠ ['.', '.']

/-- A step leads to a directory, or by a name to what has that name in a directory. -/
theorem place_of_step (h : step root here part = .ok place) :
    place.IsDirectory root ∨
      IsName part ∧ ∃ names, here = .inside names ∧
        place = .inside (names ++ [String.ofList part]) := by
  rw [step.eq_def] at h
  split at h
  · cases h
  · next hdir =>
    have hdir : here.IsDirectory root := by
      rw [Place.isDirectory_iff]
      simpa using hdir
    split at h
    · cases h
      exact .inl hdir
    · next hstay =>
      split at h
      · cases h
        exact .inl hdir.parent
      · next hup =>
        split at h
        · cases h
        · split at h
          · cases h
          · next names _ =>
            dsimp only at h
            split at h
            · cases h
              simp only [Bool.or_eq_true, decide_eq_true_eq, not_or] at hstay
              exact .inr ⟨⟨hstay.1, hstay.2, hup⟩, names, rfl, rfl⟩
            · cases h

/-- The errors of a path that leads nowhere. -/
inductive FileError.IsDeadEnd : FileError → Prop
  | nulInName : IsDeadEnd .nulInName
  | nameTooLong : IsDeadEnd .nameTooLong
  | notFound : IsDeadEnd .notFound
  | notDirectory : IsDeadEnd .notDirectory

theorem FileError.isDeadEnd_iff {e : FileError} :
    e.IsDeadEnd ↔ e ≠ .isDirectory ∧ e ≠ .notText ∧ ∀ reason, e ≠ .unreadable reason := by
  constructor
  · intro h
    cases h <;> simp
  · intro h
    cases e with
    | nulInName => exact .nulInName
    | nameTooLong => exact .nameTooLong
    | notFound => exact .notFound
    | notDirectory => exact .notDirectory
    | isDirectory => exact absurd rfl h.1
    | notText => exact absurd rfl h.2.1
    | unreadable reason => exact absurd rfl (h.2.2 reason)

theorem isDeadEnd_of_step {e : FileError} (h : step root here part = .error e) : e.IsDeadEnd := by
  rw [step.eq_def] at h
  split at h
  · cases h
    exact .notDirectory
  · split at h
    · cases h
    · split at h
      · cases h
      · split at h
        · cases h
          exact .nameTooLong
        · split at h
          · cases h
            exact .notFound
          · dsimp only at h
            split at h
            · cases h
            · cases h
              exact .notFound

theorem foldlM_step_concat {init : List (List Char)} :
    (init ++ [part]).foldlM (step root) here =
      (init.foldlM (step root) here).bind fun p => step root p part := by
  rw [List.foldlM_append]
  change Except.bind _ _ = _
  congr 1
  funext p
  change Except.bind (step root p part) Except.ok = _
  cases step root p part <;> rfl

theorem isDeadEnd_of_foldlM {e : FileError} {ps : List (List Char)}
    (h : ps.foldlM (step root) here = .error e) : e.IsDeadEnd := by
  induction ps generalizing here with
  | nil => cases h
  | cons p ps ih =>
    rw [List.foldlM_cons] at h
    rcases Except.bind_eq_error_iff.1 h with h | ⟨there, -, h⟩
    · exact isDeadEnd_of_step h
    · exact ih h

theorem isDeadEnd_of_walk {path : String} {e : FileError} (h : walk root path = .error e) :
    e.IsDeadEnd := by
  rw [walk] at h
  split at h
  · cases h
    exact .nulInName
  · split at h
    · cases h
      exact .notFound
    · split at h
      · cases h
        exact .nameTooLong
      · split at h
        · exact isDeadEnd_of_foldlM h
        · exact isDeadEnd_of_foldlM h

theorem parts_ne_nil (cs : List Char) : parts cs ≠ [] := by
  cases cs with
  | nil => exact List.cons_ne_nil _ _
  | cons c cs =>
    rw [parts]
    split
    · exact List.cons_ne_nil _ _
    · split <;> exact List.cons_ne_nil _ _

/-- Only a slash leaves an empty part in front, and then there is something behind it. -/
theorem ne_nil_of_parts {c : Char} {cs : List Char} {ps : List (List Char)}
    (h : parts (c :: cs) = [] :: ps) : ps ≠ [] := by
  rw [parts] at h
  split at h
  · cases h
  · split at h
    · cases h
      exact List.cons_ne_nil _ _
    · cases h

/-- A walk that comes to a place takes its last step by the last part of the path. -/
theorem exists_step_of_walk {path : String} (h : walk root path = .ok place) :
    ∃ front last here, parts path.toList = front ++ [last] ∧ step root here last = .ok place := by
  have split : ∀ ps : List (List Char), ps ≠ [] → ∃ front last, ps = front ++ [last] :=
    fun ps hps => ⟨_, _, (List.dropLast_concat_getLast hps).symm⟩
  rw [walk] at h
  split at h
  · cases h
  · split at h
    · cases h
    · next hne =>
      split at h
      · cases h
      · split at h
        · next rest hrest =>
          obtain ⟨c, cs, hcs⟩ := List.exists_cons_of_ne_nil (mt String.toList_eq_nil_iff.1 hne)
          obtain ⟨front, last, rfl⟩ := split rest (ne_nil_of_parts (hcs ▸ hrest))
          rw [foldlM_step_concat] at h
          obtain ⟨here, -, hstep⟩ := Except.bind_eq_ok_iff.1 h
          exact ⟨[] :: front, last, here, hrest, hstep⟩
        · obtain ⟨front, last, hps⟩ := split _ (parts_ne_nil path.toList)
          rw [hps, foldlM_step_concat] at h
          obtain ⟨here, -, hstep⟩ := Except.bind_eq_ok_iff.1 h
          exact ⟨front, last, here, hps, hstep⟩

/-- The path leads to the file that has these names from the working directory on. -/
structure Reaches (root : Node) (path : String) (names : List String) (contents : Bytes) :
    Prop where
  walk : walk root path = .ok (.inside names)
  file : root.at? names = some (.file contents)

/-- The name at the end of a path to a file is the name of the file. -/
theorem Reaches.fileName? {path : String} {names : List String} {contents : Bytes}
    (h : Reaches root path names contents) :
    ∃ name, names.getLast? = some name ∧ fileName? path = some name.toList := by
  obtain ⟨front, last, here, hparts, hstep⟩ := exists_step_of_walk h.walk
  rcases place_of_step hstep with hdir | ⟨hname, above, -, hplace⟩
  · -- a file is no directory
    obtain ⟨n, hn, hdir⟩ := hdir
    cases h.file.symm.trans hn
    cases hdir
  · cases hplace
    refine ⟨String.ofList last, List.getLast?_concat, ?_⟩
    have hlast : [last].filter (fun p => p ≠ [] && p ≠ ['.']) = [last] := by
      simp [hname.ne_nil, hname.ne_here]
    rw [Files.fileName?, steps, hparts, List.filter_append, hlast, List.getLast?_concat,
      Option.filter_some, if_pos (decide_eq_true hname.ne_up), String.toList_ofList]

theorem Reaches.view {path : String} {names : List String} {contents : Bytes}
    (h : Reaches root path names contents) : root.view path = .ok (.file contents) := by
  rw [Node.view, h.walk]
  change Except.ok (((root.at? names).map Node.entry).getD .directory) = _
  rw [h.file]
  rfl

theorem extension?_of_not_mem {name : List Char} (h : '.' ∉ name) : extension? name = none := by
  rw [extension?, Url.afterLast_of_not_mem h]
  exact if_neg (by omega)

theorem extension?_append (stem : List Char) {ext : List Char} (h : '.' ∉ ext) :
    extension? (stem ++ '.' :: ext) = if stem = [] then none else some ext := by
  rw [extension?, Url.afterLast_append stem h]
  cases stem with
  | nil => exact if_neg (by simp)
  | cons c stem => exact if_pos (by simp only [List.length_append, List.length_cons]; omega)

/-- The extension is what stands behind the last dot, if there is something in front of it. -/
theorem extension?_eq_some_iff {name ext : List Char} :
    extension? name = some ext ↔ '.' ∉ ext ∧ ∃ stem, stem ≠ [] ∧ name = stem ++ '.' :: ext := by
  constructor
  · intro h
    by_cases hdot : '.' ∈ name
    · obtain ⟨after, stem, hrev, hafter⟩ := List.eq_append_cons_of_mem (List.mem_reverse.2 hdot)
      have hname : name = stem.reverse ++ '.' :: after.reverse := by
        rw [← List.reverse_reverse name, hrev, List.reverse_append, List.reverse_cons]
        simp
      have hafter : '.' ∉ after.reverse := mt List.mem_reverse.1 hafter
      rw [hname, extension?_append _ hafter] at h
      split at h
      · cases h
      · next hstem =>
        cases h
        exact ⟨hafter, stem.reverse, hstem, hname⟩
    · rw [extension?_of_not_mem hdot] at h
      cases h
  · rintro ⟨hdot, stem, hstem, rfl⟩
    rw [extension?_append stem hdot, if_neg hstem]

end Liveness.Files
