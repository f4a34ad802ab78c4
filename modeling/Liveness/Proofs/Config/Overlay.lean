import Liveness.Proofs.Config.Methods

/-! Overrides as values. Once its URL is read, an override is an overlay, which acts on
configurations field by field: one overlay after another is one overlay, in which the later
one counts. -/

namespace Liveness.Config

/-- Overrides whose URL has been read. -/
structure Overlay where
  targetUrl : Option Url
  timeoutSecs : Option UInt64
  userAgent : Option String

/-- The URL that overrides give, if they give one. -/
def Overrides.target (o : Overrides) : Except BadTarget (Option Url) :=
  match o.targetUrl with
  | .none => .ok .none
  | some text =>
    match Url.parse text with
    | .ok u => .ok (some u)
    | .error cause => .error ⟨text, cause⟩

def Overrides.overlay (o : Overrides) : Except BadTarget Overlay :=
  o.target.map fun u => ⟨u, o.timeoutSecs, o.userAgent⟩

/-- Both overrides at once; where both give a field, the second counts. -/
def Overrides.merge (o p : Overrides) : Overrides :=
  ⟨p.targetUrl.or o.targetUrl, p.timeoutSecs.or o.timeoutSecs, p.userAgent.or o.userAgent⟩

namespace Overlay

def none : Overlay := ⟨.none, .none, .none⟩

def merge (p q : Overlay) : Overlay :=
  ⟨q.targetUrl.or p.targetUrl, q.timeoutSecs.or p.timeoutSecs, q.userAgent.or p.userAgent⟩

end Overlay

/-- The values that an overlay gives, and below it those of the configuration. -/
def overlaid (c : Config) (p : Overlay) : Config :=
  ⟨p.targetUrl.getD c.targetUrl, p.timeoutSecs.or c.timeoutSecs, p.userAgent.or c.userAgent⟩

/-- Overrides lay their overlay over the configuration, or leave it if there is none. -/
theorem call_apply (o : Overrides) (c : Config) : o.apply.call c =
    (o.overlay.map fun _ => (), (o.overlay.map c.overlaid).toOption.getD c) := by
  obtain ⟨text, timeout, agent⟩ := o
  simp only [Overrides.apply, Method.call_bind, Overrides.overlay, Overrides.target]
  cases text with
  | none => cases timeout <;> cases agent <;> rfl
  | some text =>
    simp only [assignTarget]
    cases Url.parse text with
    | error cause => rfl
    | ok u => cases timeout <;> cases agent <;> rfl

theorem override_eq (c : Config) (o : Overrides) : c.override o = o.overlay.map c.overlaid := by
  rw [override, call_apply]
  cases o.overlay <;> rfl

theorem target_eq_error_iff {o : Overrides} {e : BadTarget} :
    o.target = .error e ↔ o.targetUrl = some e.text ∧ Url.parse e.text = .error e.cause := by
  unfold Overrides.target
  cases o.targetUrl with
  | none => simp
  | some text =>
    dsimp only
    cases h : Url.parse text with
    | ok u =>
      simp only [reduceCtorEq, false_iff, not_and, Option.some.injEq]
      rintro rfl
      simp [h]
    | error cause =>
      simp only [Except.error.injEq, Option.some.injEq]
      constructor
      · rintro rfl
        exact ⟨rfl, h⟩
      · rintro ⟨rfl, hc⟩
        rw [h] at hc
        cases hc
        rfl

theorem overlay_eq_error_iff {o : Overrides} {e : BadTarget} :
    o.overlay = .error e ↔ o.targetUrl = some e.text ∧ Url.parse e.text = .error e.cause := by
  rw [Overrides.overlay, Except.map_eq_error_iff, target_eq_error_iff]

theorem fields_of_overlay {o : Overrides} {p : Overlay} (h : o.overlay = .ok p) :
    (o.targetUrl = none → p.targetUrl = none) ∧ p.timeoutSecs = o.timeoutSecs ∧
      p.userAgent = o.userAgent := by
  rw [Overrides.overlay, Except.map_eq_ok_iff] at h
  obtain ⟨u, hu, rfl⟩ := h
  refine ⟨fun hn => ?_, rfl, rfl⟩
  rw [Overrides.target, hn] at hu
  cases hu
  rfl

@[simp] theorem overlaid_overlaid (c : Config) (p q : Overlay) :
    (c.overlaid p).overlaid q = c.overlaid (p.merge q) := by
  simp only [overlaid, Overlay.merge, Option.or_assoc, Config.mk.injEq, and_true]
  cases q.targetUrl <;> rfl

@[simp] theorem merge_self (p : Overlay) : p.merge p = p := by
  simp [Overlay.merge]

/-- Two overrides that give overlays give the merged one together. -/
theorem overlay_merge {o p : Overrides} {x y : Overlay} (ho : o.overlay = .ok x)
    (hp : p.overlay = .ok y) : (o.merge p).overlay = .ok (x.merge y) := by
  simp only [Overrides.overlay, Except.map_eq_ok_iff] at ho hp ⊢
  obtain ⟨u, hu, rfl⟩ := ho
  obtain ⟨v, hv, rfl⟩ := hp
  refine ⟨v.or u, ?_, rfl⟩
  unfold Overrides.target at hu hv ⊢
  cases hpt : p.targetUrl with
  | none =>
    rw [hpt] at hv
    cases hv
    simpa [Overrides.merge, hpt] using hu
  | some text =>
    simp only [hpt] at hv
    simp only [Overrides.merge, hpt, Option.some_or]
    cases h : Url.parse text with
    | error cause => simp [h] at hv
    | ok w =>
      rw [h] at hv
      cases hv
      rfl

theorem override_eq_ok_iff {c c' : Config} {o : Overrides} :
    c.override o = .ok c' ↔ ∃ p, o.overlay = .ok p ∧ c.overlaid p = c' := by
  rw [override_eq, Except.map_eq_ok_iff]

theorem call_apply_eq_ok_iff {c c' : Config} {o : Overrides} :
    o.apply.call c = (.ok (), c') ↔ ∃ p, o.overlay = .ok p ∧ c.overlaid p = c' := by
  rw [call_apply]
  cases o.overlay <;> simp [Except.map, Except.toOption]

/-- What an override leaves alone: the fields that it does not give, and that a field has a
value. -/
structure Spares (o : Overrides) (c c' : Config) : Prop where
  targetUrl : o.targetUrl = none → c'.targetUrl = c.targetUrl
  timeoutSecs : o.timeoutSecs = none → c'.timeoutSecs = c.timeoutSecs
  userAgent : o.userAgent = none → c'.userAgent = c.userAgent
  timeoutGiven : c.timeoutSecs ≠ none → c'.timeoutSecs ≠ none
  agentGiven : c.userAgent ≠ none → c'.userAgent ≠ none

theorem spares_of_call {c c' : Config} {o : Overrides} (h : o.apply.call c = (.ok (), c')) :
    Spares o c c' := by
  obtain ⟨p, hp, rfl⟩ := call_apply_eq_ok_iff.1 h
  obtain ⟨hu, ht, ha⟩ := fields_of_overlay hp
  constructor
  · intro hn
    simp [overlaid, hu hn]
  · intro hn
    simp [overlaid, ht, hn]
  · intro hn
    simp [overlaid, ha, hn]
  · intro hc
    simp [overlaid, hc]
  · intro hc
    simp [overlaid, hc]

theorem call_apply_again {c c' : Config} {o : Overrides} (h : o.apply.call c = (.ok (), c')) :
    o.apply.call c' = (.ok (), c') := by
  obtain ⟨p, hp, rfl⟩ := call_apply_eq_ok_iff.1 h
  exact call_apply_eq_ok_iff.2 ⟨p, hp, by rw [overlaid_overlaid, merge_self]⟩

theorem call_apply_merge {c c₁ c₂ : Config} {o p : Overrides}
    (h₁ : o.apply.call c = (.ok (), c₁)) (h₂ : p.apply.call c₁ = (.ok (), c₂)) :
    (o.merge p).apply.call c = (.ok (), c₂) := by
  obtain ⟨x, hx, rfl⟩ := call_apply_eq_ok_iff.1 h₁
  obtain ⟨y, hy, rfl⟩ := call_apply_eq_ok_iff.1 h₂
  exact call_apply_eq_ok_iff.2 ⟨x.merge y, overlay_merge hx hy, (overlaid_overlaid c x y).symm⟩

end Liveness.Config
