import Liveness.Environment.Basic
import Liveness.Proofs.Mapped

/-! Environments of texts. -/

namespace Liveness.Environment

open Text

/-- All names and values are texts. -/
def IsText (e : Environment) : Prop :=
  ∀ v ∈ e.entries, (∃ name, Utf8.encode name = v.1) ∧ ∃ value, Utf8.encode value = v.2

/-- The variables can be had as texts if that is what they are. -/
theorem IsText.texts? {e : Environment} (h : e.IsText) : ∃ vs, e.texts? = some vs := by
  refine mapM_eq_some fun v hv => ?_
  obtain ⟨⟨name, hname⟩, value, hvalue⟩ := h v hv
  rw [Utf8.decode?_eq_some_iff.2 hname, Utf8.decode?_eq_some_iff.2 hvalue]
  exact ⟨(name, value), rfl⟩

/-- The name and the value of the variable are texts. -/
def IsTextual (v : Bytes × Bytes) : Prop :=
  (∃ name, Utf8.encode name = v.1) ∧ ∃ value, Utf8.encode value = v.2

/-- A variable as a text. -/
def textOf? (v : Bytes × Bytes) : Option (String × String) :=
  match Utf8.decode? v.1, Utf8.decode? v.2 with
  | some name, some value => some (name, value)
  | _, _ => none

theorem texts?_eq (vs : List (Bytes × Bytes)) : texts? ⟨vs⟩ = vs.mapM textOf? := rfl

theorem textOf?_encode (name value : String) :
    textOf? (Utf8.encode name, Utf8.encode value) = some (name, value) := by
  rw [textOf?, Utf8.decode?_encode, Utf8.decode?_encode]

theorem isTextual_of_textOf? {v : Bytes × Bytes} {w : String × String} (h : textOf? v = some w) :
    IsTextual v := by
  rw [textOf?] at h
  split at h
  · next name value hname hvalue =>
    exact ⟨⟨name, Utf8.encode_of_decode? hname⟩, value, Utf8.encode_of_decode? hvalue⟩
  · cases h

theorem texts?_eq_none_iff {e : Environment} : e.texts? = none ↔ ¬ e.IsText := by
  constructor
  · intro h ht
    obtain ⟨vs, hvs⟩ := ht.texts?
    rw [h] at hvs
    cases hvs
  · intro h
    cases hvs : e.texts? with
    | none => rfl
    | some vs =>
      refine absurd (fun v hv => ?_) h
      obtain ⟨w, hw⟩ := of_mapM_eq_some hvs hv
      exact isTextual_of_textOf? hw

/-- A variable between the others, as a text between theirs. -/
theorem texts?_insert (before after : List (Bytes × Bytes)) (name value : String) :
    texts? ⟨before ++ (Utf8.encode name, Utf8.encode value) :: after⟩ =
      (before.mapM textOf?).bind fun bs => (after.mapM textOf?).map fun as =>
        bs ++ (name, value) :: as := by
  rw [texts?_eq, List.mapM_append, List.mapM_cons, textOf?_encode]
  cases before.mapM textOf? <;> cases after.mapM textOf? <;> rfl

theorem texts?_append (before after : List (Bytes × Bytes)) :
    texts? ⟨before ++ after⟩ =
      (before.mapM textOf?).bind fun bs => (after.mapM textOf?).map fun as => bs ++ as := by
  rw [texts?_eq, List.mapM_append]
  cases before.mapM textOf? <;> cases after.mapM textOf? <;> rfl

theorem mapM_textOf?_encode (vs : List (String × String)) :
    (vs.map fun v => (Utf8.encode v.1, Utf8.encode v.2)).mapM textOf? = some vs := by
  induction vs with
  | nil => rfl
  | cons v vs ih =>
    rw [List.map_cons, List.mapM_cons, textOf?_encode, ih]
    rfl

end Liveness.Environment
