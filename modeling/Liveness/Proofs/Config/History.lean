import Mathlib.Data.List.Induction
import Liveness.Proofs.Config.Overlay

/-! The history of a configuration. Whatever steps a run takes, each field holds what the
last step to write it has written. -/

namespace Liveness.Config

namespace SessionStep

/-- What the configuration is replaced by in a step that succeeds. -/
def replacement? : SessionStep → Option Config
  | .parse format contents => (Config.parse format contents).toOption
  | .set fields => (fields.overlay.map default.overlaid).toOption
  | _ => none

/-- What is laid over the configuration in a step that succeeds. -/
def overlay? : SessionStep → Option Overlay
  | .override fields => fields.overlay.toOption
  | .environment e => (Overrides.ofEnvironment e).toOption.bind fun o => o.overlay.toOption
  | _ => none

/-- The error of a step, and the configuration that it leaves. -/
def error? (c : Config) (s : SessionStep) : Option SessionError :=
  match (s.apply.call c).1 with
  | .ok _ => none
  | .error e => some e

def next (c : Config) (s : SessionStep) : Config := (s.apply.call c).2

/-- A step only writes when nothing in it can fail any more. -/
theorem apply_atomic (s : SessionStep) : Method.Atomic s.apply := by
  cases s with
  | parse format contents => exact replace_atomic _
  | set fields => exact replace_atomic _
  | override fields => exact (Config.apply_atomic fields).adapt _
  | environment e =>
    exact (Method.reads_ofExcept _).bind fun o => (Config.apply_atomic o).adapt _
  | validate => exact Method.Reads.bind (fun _ => rfl) fun c => (Method.reads_ofExcept _).atomic

theorem call_of_error? {c : Config} {s : SessionStep} {e : SessionError}
    (h : s.error? c = some e) : s.apply.call c = (.error e, s.next c) := by
  rw [error?] at h
  split at h
  · cases h
  · next hcause =>
    cases h
    exact Prod.ext hcause rfl

theorem next_of_error {c : Config} {s : SessionStep} {e : SessionError}
    (h : s.error? c = some e) : s.next c = c :=
  s.apply_atomic c e _ (call_of_error? h)

theorem next_validate (c : Config) : SessionStep.validate.next c = c := by
  simp only [next, apply, Method.call_bind, Method.call_get, Method.call_ofExcept]

theorem next_parse (c : Config) (format : Format) (contents : String) :
    (SessionStep.parse format contents).next c =
      (Config.parse format contents).toOption.getD c := by
  simp only [next, apply, replace, Method.call_bind, Method.call_ofExcept]
  cases Config.parse format contents <;> rfl

theorem next_set (c : Config) (fields : Overrides) :
    (SessionStep.set fields).next c = (default.override fields).toOption.getD c := by
  simp only [next, apply, replace, Method.call_bind, Method.call_ofExcept]
  cases default.override fields <;> rfl

/-- All that a step can do: put a configuration in the place of the old one, lay some fields
over it, or leave it. Which of them does not depend on the old one. -/
theorem next_eq (c : Config) (s : SessionStep) :
    s.next c = s.replacement?.getD (c.overlaid (s.overlay?.getD .none)) := by
  cases s with
  | parse format contents => exact next_parse c format contents
  | set fields =>
    rw [next_set, override_eq]
    rfl
  | override fields =>
    simp only [next, apply, replacement?, overlay?, Method.call_adapt, call_apply]
    cases fields.overlay <;> rfl
  | environment e =>
    simp only [next, apply, replacement?, overlay?, Method.call_bind, Method.call_ofExcept]
    cases Overrides.ofEnvironment e with
    | error cause => rfl
    | ok o =>
      simp only [Except.mapError_ok, Except.toOption, Option.bind_some, Method.call_adapt,
        call_apply]
      cases o.overlay <;> rfl
  | validate => rw [next_validate]; rfl

end SessionStep

/-- The configurations of a run, from the one before the first step on. -/
def states (c : Config) (steps : List SessionStep) : List Config :=
  c :: (session c steps).map (·.2)

/-- The configuration after some steps. -/
def after (c : Config) (steps : List SessionStep) : Config := steps.foldl SessionStep.next c

theorem after_snoc (c : Config) (steps : List SessionStep) (s : SessionStep) :
    after c (steps ++ [s]) = s.next (after c steps) := by
  simp [after, List.foldl_append]

theorem session_cons (c : Config) (s : SessionStep) (steps : List SessionStep) :
    session c (s :: steps) = (s.error? c, s.next c) :: session (s.next c) steps := by
  rw [session, SessionStep.error?, SessionStep.next]
  rcases s.apply.call c with ⟨_ | _, _⟩ <;> rfl

theorem getElem?_session (c : Config) (steps : List SessionStep) (k : Nat) :
    (session c steps)[k]? = steps[k]?.map fun s =>
      (s.error? (after c (steps.take k)), s.next (after c (steps.take k))) := by
  induction steps generalizing c k with
  | nil => rfl
  | cons s steps ih =>
    rw [session_cons]
    cases k with
    | zero => rfl
    | succ k => exact ih (s.next c) k

theorem getElem?_states (c : Config) (steps : List SessionStep) (k : Nat)
    (hk : k ≤ steps.length) : (states c steps)[k]? = some (after c (steps.take k)) := by
  cases k with
  | zero => rfl
  | succ k =>
    have hs : steps[k]? = some steps[k] := List.getElem?_eq_getElem hk
    rw [states, List.getElem?_cons_succ, List.getElem?_map, getElem?_session, hs,
      List.take_succ_eq_append_getElem hk, after_snoc]
    rfl

/-- The configuration that was last put in place, or else the default. -/
def base (steps : List SessionStep) : Config :=
  (steps.filterMap (·.replacement?)).getLast?.getD default

/-- The steps after the last one that put a configuration in place. -/
def since (steps : List SessionStep) : List SessionStep :=
  (steps.reverse.takeWhile (·.replacement?.isNone)).reverse

/-- The value that was last laid over a field since then. -/
def laid {α : Type} (field : Overlay → Option α) (steps : List SessionStep) : Option α :=
  ((since steps).filterMap fun s => s.overlay?.bind field).getLast?

/-- What the last writers of the three fields have written. -/
def lastWritten (steps : List SessionStep) : Config :=
  ⟨(laid (·.targetUrl) steps).getD (base steps).targetUrl,
    (laid (·.timeoutSecs) steps).or (base steps).timeoutSecs,
    (laid (·.userAgent) steps).or (base steps).userAgent⟩

theorem base_snoc (steps : List SessionStep) (s : SessionStep) :
    base (steps ++ [s]) = s.replacement?.getD (base steps) := by
  cases h : s.replacement? <;> simp [base, List.filterMap_append, h]

theorem since_snoc_of_none {steps : List SessionStep} {s : SessionStep}
    (h : s.replacement? = none) : since (steps ++ [s]) = since steps ++ [s] := by
  simp [since, h]

theorem since_snoc_of_some {steps : List SessionStep} {s : SessionStep} {c : Config}
    (h : s.replacement? = some c) : since (steps ++ [s]) = [] := by
  simp [since, h]

theorem laid_snoc_of_none {α : Type} (field : Overlay → Option α) {steps : List SessionStep}
    {s : SessionStep} (h : s.replacement? = none) :
    laid field (steps ++ [s]) = (s.overlay?.bind field).or (laid field steps) := by
  rw [laid, since_snoc_of_none h, List.filterMap_append]
  cases hs : s.overlay?.bind field <;> simp [laid, hs]

theorem laid_snoc_of_some {α : Type} (field : Overlay → Option α) {steps : List SessionStep}
    {s : SessionStep} {c : Config} (h : s.replacement? = some c) :
    laid field (steps ++ [s]) = none := by
  simp [laid, since_snoc_of_some h]

/-- A step keeps the law of the last writer: it replaces all of it or adds to it. -/
theorem lastWritten_snoc (steps : List SessionStep) (s : SessionStep) :
    lastWritten (steps ++ [s]) = s.next (lastWritten steps) := by
  rw [SessionStep.next_eq]
  cases h : s.replacement? with
  | some c => simp [lastWritten, laid_snoc_of_some _ h, base_snoc, h]
  | none =>
    simp only [lastWritten, laid_snoc_of_none _ h, base_snoc, h, Option.getD_none, overlaid,
      Config.mk.injEq]
    cases s.overlay? with
    | none => simp [Overlay.none]
    | some p => cases p.targetUrl <;> simp [Option.or_assoc]

theorem after_default (steps : List SessionStep) : after default steps = lastWritten steps := by
  induction steps using List.reverseRecOn with
  | nil => rfl
  | append_singleton steps s ih => rw [after_snoc, ih, lastWritten_snoc]

/-- What follows from a step of a run is told by what stands before it. -/
theorem getElem?_session_eq_some {c c' : Config} {steps : List SessionStep} {k : Nat}
    {e : Option SessionError} (h : (session c steps)[k]? = some (e, c')) :
    ∃ s b, steps[k]? = some s ∧ (states c steps)[k]? = some b ∧ e = s.error? b ∧
      c' = s.next b := by
  rw [getElem?_session, Option.map_eq_some_iff] at h
  obtain ⟨s, hs, h⟩ := h
  have hk : k < steps.length := (List.getElem?_eq_some_iff.1 hs).1
  injection h with he hc
  exact ⟨s, _, hs, getElem?_states c steps k (Nat.le_of_lt hk), he.symm, hc.symm⟩

/-- The law of a configuration over a whole run. After every prefix of it each field holds
what its last writer has written; a step that fails, and a check, leaves all of them as they
were. An override touches only what it gives and clears nothing, works once when made twice,
and after another one works with it as the merged one; one that fails has changed nothing. -/
theorem session_last_writer (steps : List SessionStep) :
    (∀ k ≤ steps.length, (states default steps)[k]? = some (lastWritten (steps.take k))) ∧
    (∀ (k : Nat) e c, (session default steps)[k]? = some (some e, c) →
      (states default steps)[k]? = some c) ∧
    (∀ (k : Nat) e c, steps[k]? = some .validate →
      (session default steps)[k]? = some (e, c) → (states default steps)[k]? = some c) ∧
    (∀ (c c' : Config) (o : Overrides), o.apply.call c = (.ok (), c') →
      Spares o c c' ∧ o.apply.call c' = (.ok (), c')) ∧
    (∀ (c c₁ c₂ : Config) (o p : Overrides), o.apply.call c = (.ok (), c₁) →
      p.apply.call c₁ = (.ok (), c₂) → (o.merge p).apply.call c = (.ok (), c₂)) ∧
    ∀ (c c' : Config) (o : Overrides) (e : BadTarget), o.apply.call c = (.error e, c') →
      c' = c := by
  refine ⟨fun k hk => ?_, fun k e c h => ?_, fun k e c hv h => ?_,
    fun c c' o h => ⟨spares_of_call h, call_apply_again h⟩,
    fun c c₁ c₂ o p h₁ h₂ => call_apply_merge h₁ h₂,
    fun c c' o e h => apply_atomic o c e c' h⟩
  · rw [getElem?_states _ _ _ hk, after_default]
  · obtain ⟨s, b, -, hb, he, rfl⟩ := getElem?_session_eq_some h
    rw [SessionStep.next_of_error he.symm, hb]
  · obtain ⟨s, b, hs, hb, -, rfl⟩ := getElem?_session_eq_some h
    rw [hv] at hs
    cases hs
    rw [SessionStep.next_validate, hb]

/-- A bad URL keeps the good timeout beside it from being taken over. -/
theorem session_last_writer_bad_target :
    (session default [.override ⟨none, some 5, none⟩, .override ⟨some "x", some 7, none⟩])[1]? =
        some (some (.target ⟨"x", .relativeWithoutBase⟩), ⟨defaultTarget, some 5, none⟩) ∧
      (states default [.override ⟨none, some 5, none⟩, .override ⟨some "x", some 7, none⟩])[1]? =
        some ⟨defaultTarget, some 5, none⟩ := by
  have h : (session default
      [.override ⟨none, some 5, none⟩, .override ⟨some "x", some 7, none⟩])[1]? =
        some (some (.target ⟨"x", .relativeWithoutBase⟩), ⟨defaultTarget, some 5, none⟩) := rfl
  exact ⟨h, (session_last_writer _).2.1 1 _ _ h⟩

end Liveness.Config
