import Liveness.Probe.Script
import Liveness.Probe.Basic
import Liveness.Proofs.Check.Results

/-! The verdict of a run. A check is told by its name only, so the verdict is that of the
last check of each name; one that fails before another of its name is not seen. -/

namespace Liveness.Check

/-- The checks that no later one of the same name follows. -/
def lasts : List Check → List Check
  | [] => []
  | c :: rest => if rest.any (·.name = c.name) then lasts rest else c :: lasts rest

theorem mem_of_mem_lasts {checks : List Check} {c : Check} (h : c ∈ lasts checks) :
    c ∈ checks := by
  induction checks with
  | nil => exact h
  | cons d rest ih =>
    rw [lasts] at h
    split at h
    · exact List.mem_cons_of_mem d (ih h)
    · rcases List.mem_cons.1 h with rfl | h
      · exact List.mem_cons_self
      · exact List.mem_cons_of_mem d (ih h)

theorem mem_lasts_iff (checks : List Check) (c : Check) :
    c ∈ lasts checks ↔
      ∃ before after, checks = before ++ c :: after ∧ ∀ d ∈ after, d.name ≠ c.name := by
  induction checks with
  | nil => simp [lasts]
  | cons x rest ih =>
    constructor
    · intro h
      rw [lasts] at h
      have hrest : c ∈ lasts rest → ∃ before after,
          x :: rest = before ++ c :: after ∧ ∀ d ∈ after, d.name ≠ c.name := by
        intro h
        obtain ⟨before, after, rfl, hd⟩ := ih.1 h
        exact ⟨x :: before, after, rfl, hd⟩
      split at h
      · exact hrest h
      · next hx =>
        rcases List.mem_cons.1 h with rfl | h
        · exact ⟨[], rest, rfl, by simpa using hx⟩
        · exact hrest h
    · rintro ⟨before, after, heq, hd⟩
      rw [lasts]
      cases before with
      | nil =>
        obtain ⟨rfl, rfl⟩ := List.cons.inj heq
        rw [if_neg (by simpa using hd)]
        exact List.mem_cons_self
      | cons y before =>
        have h := ih.2 ⟨before, after, (List.cons.inj heq).2, hd⟩
        split
        · exact h
        · exact List.mem_cons_of_mem x h

theorem lasts_ne_nil {checks : List Check} (h : checks ≠ []) : lasts checks ≠ [] := by
  obtain ⟨init, c, rfl⟩ := (List.eq_nil_or_concat checks).resolve_left h
  exact List.ne_nil_of_mem ((mem_lasts_iff _ c).2 ⟨init, [], by simp, by simp⟩)

/-- What is found under a name is the result of the last check with it. -/
theorem lookup_iff (v : Check → Bool) (checks : List Check) (n : String) (b : Bool) :
    (checks.map fun c => (c.name, v c)).reverse.lookup n = some b ↔
      ∃ c ∈ lasts checks, c.name = n ∧ v c = b := by
  induction checks with
  | nil => simp [lasts]
  | cons x rest ih =>
    have hnone : (rest.map fun c => (c.name, v c)).reverse.lookup n = none ↔
        ∀ d ∈ rest, d.name ≠ n := by
      simp [List.lookup_eq_none_iff, ne_comm]
    have hone : [(x.name, v x)].lookup n = some b ↔ x.name = n ∧ v x = b := by
      rw [List.lookup_cons, eq_comm (a := x.name)]
      cases h : n == x.name <;> simp_all
    -- what is behind the head is looked up first, so the head counts only if its name is
    -- not there
    rw [List.map_cons, List.reverse_cons, List.lookup_append, Option.or_eq_some_iff, ih, hnone,
      hone, lasts]
    split
    · next hx =>
      obtain ⟨d, hd, hn⟩ := List.any_eq_true.1 hx
      refine or_iff_left ?_
      rintro ⟨habs, rfl, -⟩
      exact habs d hd (by simpa using hn)
    · next hx =>
      have hx : ∀ d ∈ rest, d.name ≠ x.name := by simpa using hx
      simp only [List.mem_cons, or_and_right, exists_or, exists_eq_left]
      rw [or_comm]
      refine or_congr_left (and_iff_right_of_imp ?_)
      rintro ⟨rfl, -⟩
      exact hx

theorem get?_evaluate_iff (resp : Option Response) (checks : List Check) (n : String)
    (b : Bool) : (evaluate resp checks).get? n = some b ↔
      ∃ c ∈ lasts checks, c.name = n ∧ resp.any c.holds = b := by
  rw [evaluate, Results.get?_ofList, lookup_iff]

/-- Results pass if there are checks and the last of each name holds. -/
theorem evaluate_passed_iff (resp : Option Response) (checks : List Check) :
    (evaluate resp checks).passed = true ↔
      checks ≠ [] ∧ ∀ c ∈ lasts checks, resp.any c.holds = true := by
  rw [Results.passed_iff]
  refine and_congr ⟨?_, fun h => ?_⟩ ⟨fun h c hc => ?_, fun h n hn => ?_⟩
  · rintro ⟨n, hn⟩ rfl
    exact hn rfl
  · obtain ⟨c, hc⟩ := List.exists_mem_of_ne_nil _ (lasts_ne_nil h)
    refine ⟨c.name, ?_⟩
    rw [(get?_evaluate_iff resp checks c.name _).2 ⟨c, hc, rfl, rfl⟩]
    exact Option.some_ne_none _
  · have := mt (get?_evaluate_iff resp checks c.name false).2 (h c.name)
    rw [← Bool.not_eq_false]
    exact fun hf => this ⟨c, hc, rfl, hf⟩
  · obtain ⟨c, hc, -, hf⟩ := (get?_evaluate_iff resp checks n false).1 hn
    rw [h c hc] at hf
    cases hf

/-- Some check fails, and each that does stands before another of its name. -/
def Masked (r : Response) (checks : List Check) : Prop :=
  (∃ c ∈ checks, c.holds r = false) ∧
    ∀ before c after, checks = before ++ c :: after → c.holds r = false →
      ∃ d ∈ after, d.name = c.name

theorem lasts_hold_iff (r : Response) (checks : List Check) :
    (∀ c ∈ lasts checks, c.holds r = true) ↔
      ∀ before c after, checks = before ++ c :: after → c.holds r = false →
        ∃ d ∈ after, d.name = c.name := by
  constructor
  · intro h before c after heq hf
    by_cases hd : ∃ d ∈ after, d.name = c.name
    · exact hd
    · have hc := h c ((mem_lasts_iff checks c).2 ⟨before, after, heq, by simpa using hd⟩)
      rw [hf] at hc
      cases hc
  · intro h c hc
    obtain ⟨before, after, heq, hd⟩ := (mem_lasts_iff checks c).1 hc
    rw [← Bool.not_eq_false]
    intro hf
    obtain ⟨d, hm, hn⟩ := h before c after heq hf
    exact hd d hm hn

theorem evaluate_some_passed_iff (r : Response) (checks : List Check) :
    (evaluate (some r) checks).passed = true ↔
      checks ≠ [] ∧ ∀ c ∈ lasts checks, c.holds r = true :=
  evaluate_passed_iff (some r) checks

/-- Without a response nothing passes. -/
theorem evaluate_none_passed (checks : List Check) : (evaluate none checks).passed = false := by
  rw [← Bool.not_eq_true, evaluate_passed_iff]
  rintro ⟨h, hall⟩
  obtain ⟨c, hc⟩ := List.exists_mem_of_ne_nil _ (lasts_ne_nil h)
  exact Bool.false_ne_true (hall c hc)

/-- Results pass as they should, when there are checks and all of them hold, unless a
failure is masked. -/
theorem evaluate_sound_iff (r : Response) (checks : List Check) :
    ((evaluate (some r) checks).passed = true ↔
      checks ≠ [] ∧ ∀ c ∈ checks, c.holds r = true) ↔ ¬ Masked r checks := by
  rw [evaluate_some_passed_iff]
  constructor
  · rintro h ⟨⟨c, hc, hf⟩, hm⟩
    have := (h.1 ⟨List.ne_nil_of_mem hc, (lasts_hold_iff r checks).2 hm⟩).2 c hc
    rw [hf] at this
    cases this
  · intro hm
    refine and_congr_right fun _ => ⟨fun h c hc => ?_, fun h c hc => h c (mem_of_mem_lasts hc)⟩
    rw [← Bool.not_eq_false]
    exact fun hf => hm ⟨⟨c, hc, hf⟩, (lasts_hold_iff r checks).1 h⟩

/-- Names that are told apart mask nothing. -/
theorem not_masked_of_nodup {r : Response} {checks : List Check}
    (h : (checks.map (·.name)).Nodup) : ¬ Masked r checks := by
  rintro ⟨⟨c, hc, hf⟩, hm⟩
  obtain ⟨before, after, rfl⟩ := List.append_of_mem hc
  obtain ⟨d, hd, hn⟩ := hm before c after rfl hf
  rw [List.map_append, List.nodup_append, List.map_cons, List.nodup_cons] at h
  exact h.2.1.1 (hn ▸ List.mem_map_of_mem hd)

/-- Two checks of one name, the first of which always fails. -/
def shadowed : List Check := [⟨"a", fun _ => false⟩, ⟨"a", fun _ => true⟩]

theorem masked_shadowed (r : Response) : Masked r shadowed := by
  refine ⟨⟨_, List.mem_cons_self, rfl⟩, ?_⟩
  intro before c after h hf
  cases before with
  | nil =>
    obtain ⟨rfl, rfl⟩ := List.cons.inj h
    exact ⟨_, List.mem_cons_self, rfl⟩
  | cons x before =>
    have hc : c ∈ [(⟨"a", fun _ => true⟩ : Check)] := by
      rw [(List.cons.inj h).2]
      exact List.mem_append_right before List.mem_cons_self
    rw [List.mem_singleton.1 hc] at hf
    cases hf

/-- A failed check of a run that passes. -/
theorem evaluate_unsound : ¬ ∀ (r : Response) (checks : List Check),
    (evaluate (some r) checks).passed = true ↔
      checks ≠ [] ∧ ∀ c ∈ checks, c.holds r = true := by
  intro h
  have hr := (h ⟨200, [], 0⟩ shadowed).1 rfl
  exact Bool.false_ne_true (hr.2 _ List.mem_cons_self)

end Liveness.Check

namespace Liveness.Probe

open Check

/-- The verdict on what a fetch came to. -/
def verdict (checks : List Check) : Outcome → Bool
  | .ok r => !checks.isEmpty && (lasts checks).all (·.holds r)
  | .error _ => false

theorem ofOutcome_passed (stamp : Stamp) (target : Url) (checks : List Check) (o : Outcome) :
    (Report.ofOutcome stamp target checks o).passed = verdict checks o := by
  cases o with
  | error f => exact evaluate_none_passed checks
  | ok r =>
    rw [Bool.eq_iff_iff]
    refine (evaluate_some_passed_iff r checks).trans ?_
    simp [verdict]

/-- A success hides a failure where that is masked, and nowhere else. -/
theorem verdict_hides_iff (checks : List Check) (o : Outcome) :
    (verdict checks o = true ∧ ∃ c ∈ checks, o.toOption.any c.holds = false) ↔
      ∃ r, o = .ok r ∧ Masked r checks := by
  cases o with
  | error f => simp [verdict]
  | ok r =>
    have hv : verdict checks (.ok r) = true ↔
        checks ≠ [] ∧ ∀ c ∈ lasts checks, c.holds r = true := by simp [verdict]
    rw [hv, lasts_hold_iff]
    constructor
    · rintro ⟨⟨-, hm⟩, hf⟩
      exact ⟨r, rfl, hf, hm⟩
    · rintro ⟨_, ⟨⟩, ⟨c, hc, hf⟩, hm⟩
      exact ⟨⟨List.ne_nil_of_mem hc, hm⟩, c, hc, hf⟩

variable {m : Type → Type} [Monad m] [LawfulMonad m]

theorem passed_execute (fetch : Url → m Outcome) (watch : m (m Stamp)) (target : Url)
    (checks : List Check) :
    Report.passed <$> execute fetch watch target checks = do
      let stop ← watch
      let outcome ← fetch target
      let _ ← stop
      return verdict checks outcome := by
  simp only [execute, map_bind, map_pure, ofOutcome_passed]

/-- The law of the verdict. A response passes if there are checks and the last of each name
holds, which is that all of them hold unless a failure is masked; without a response nothing
passes. So the report of every run, whatever fetches, shows as a success what hides a
failure exactly when the response masks it. -/
theorem verdict_of_last_checks (r : Response) (checks : List Check) (fetch : Url → m Outcome)
    (watch : m (m Stamp)) (target : Url) (p : Probe) {κ : Type} (w : Http.Wire m κ) :
    ((evaluate (some r) checks).passed = true ↔
      checks ≠ [] ∧ ∀ c ∈ lasts checks, c.holds r = true) ∧
    (((evaluate (some r) checks).passed = true ↔
      checks ≠ [] ∧ ∀ c ∈ checks, c.holds r = true) ↔ ¬ Masked r checks) ∧
    (evaluate none checks).passed = false ∧
    (Report.passed <$> execute fetch watch target checks = do
      let stop ← watch
      let outcome ← fetch target
      let _ ← stop
      return verdict checks outcome) ∧
    (Report.passed <$> (p.withChecks checks).report w watch = do
      let stop ← watch
      let fetched ← p.client.fetch w p.config.targetUrl
      let _ ← stop
      return verdict checks (outcome fetched)) ∧
    ∀ o : Outcome, (verdict checks o = true ∧ ∃ c ∈ checks, o.toOption.any c.holds = false) ↔
      ∃ r, o = .ok r ∧ Masked r checks := by
  refine ⟨evaluate_some_passed_iff r checks, evaluate_sound_iff r checks,
    evaluate_none_passed checks, passed_execute fetch watch target checks, ?_,
    verdict_hides_iff checks⟩
  rw [report, passed_execute]
  simp only [bind_map_left]
  rfl

/-- A scripted run passes though the first of its checks has failed. -/
theorem verdict_of_last_checks_shadowed :
    Masked ⟨200, [], 0⟩ shadowed ∧
      (Report.passed <$> execute Script.fetch (pure (pure ⟨"", "", 0⟩)) Config.defaultTarget
        shadowed).run ⟨[.ok ⟨200, [], 0⟩], []⟩ = (true, ⟨[], [Config.defaultTarget]⟩) := by
  have h := verdict_of_last_checks (m := StateM Script) ⟨200, [], 0⟩ shadowed Script.fetch
    (pure (pure ⟨"", "", 0⟩)) Config.defaultTarget
    (Probe.withClient Config.default Http.Client.plain) (κ := Unit)
    ⟨pure 0, fun _ _ => pure (.error .timedOut), fun _ _ => pure (.error .timedOut),
      fun _ => pure ()⟩
  refine ⟨masked_shadowed _, ?_⟩
  rw [h.2.2.2.1]
  rfl

end Liveness.Probe
