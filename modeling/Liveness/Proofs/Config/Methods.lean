import Liveness.Config.Session
import Liveness.Proofs.Except

/-! Methods that fail leave the configuration as it was, since what can fail in them comes
before what writes. -/

namespace Liveness.Config

namespace Method

variable {ε ε' α β : Type} {c c' : Config} {x : Method ε α} {k : α → Method ε β}

theorem call_bind (x : Method ε α) (k : α → Method ε β) (c : Config) :
    Method.call (x >>= k) c =
      match x.call c with
      | (.ok a, c') => (k a).call c'
      | (.error e, c') => (.error e, c') := by
  change StateT.run (ExceptT.run (x >>= k)) c = _
  rw [call]
  simp only [ExceptT.run_bind, StateT.run_bind]
  rcases StateT.run x.run c with ⟨_ | _, _⟩ <;> rfl

theorem call_bind_eq_error_iff {e : ε} : Method.call (x >>= k) c = (.error e, c') ↔
    x.call c = (.error e, c') ∨ ∃ a c₁, x.call c = (.ok a, c₁) ∧ (k a).call c₁ = (.error e, c') := by
  rw [call_bind]
  rcases x.call c with ⟨e | a, c₁⟩
  · simp
  · constructor
    · intro h
      exact .inr ⟨a, c₁, rfl, h⟩
    · rintro (h | ⟨_, _, ⟨⟩, h⟩)
      · cases h
      · exact h

@[simp] theorem call_get (c : Config) :
    Method.call (MonadState.get : Method ε Config) c = (.ok c, c) := rfl

@[simp] theorem call_ofExcept (r : Except ε α) (c : Config) :
    Method.call (ofExcept r : Method ε α) c = (r, c) := by
  cases r <;> rfl

@[simp] theorem call_adapt (f : ε → ε') (x : Method ε α) (c : Config) :
    Method.call (ExceptT.adapt f x) c = ((x.call c).1.mapError f, (x.call c).2) := rfl

/-- A method that has changed nothing when it fails. -/
def Atomic (x : Method ε α) : Prop := ∀ c e c', x.call c = (.error e, c') → c' = c

/-- A method that never fails. -/
def Succeeds (x : Method ε α) : Prop := ∀ c e c', x.call c ≠ (.error e, c')

/-- A method that changes nothing, whether it fails or not. -/
def Reads (x : Method ε α) : Prop := ∀ c, (x.call c).2 = c

theorem Reads.atomic (h : Reads x) : Atomic x := by
  intro c e c' hc
  rw [← h c, hc]

theorem reads_ofExcept (r : Except ε α) : Reads (ofExcept r : Method ε α) := by
  intro c
  rw [call_ofExcept]

/-- What cannot fail may come after what can. -/
theorem Atomic.bind (hx : Atomic x) (hk : ∀ a, Succeeds (k a)) : Atomic (x >>= k) := by
  intro c e c' h
  rcases call_bind_eq_error_iff.1 h with h | ⟨a, c₁, -, h⟩
  · exact hx c e c' h
  · exact absurd h (hk a c₁ e c')

/-- What can fail may come after what changes nothing. -/
theorem Reads.bind (hx : Reads x) (hk : ∀ a, Atomic (k a)) : Atomic (x >>= k) := by
  intro c e c' h
  rcases call_bind_eq_error_iff.1 h with h | ⟨a, c₁, ha, h⟩
  · exact hx.atomic c e c' h
  · rw [hk a c₁ e c' h, ← hx c, ha]

theorem Succeeds.bind (hx : Succeeds x) (hk : ∀ a, Succeeds (k a)) : Succeeds (x >>= k) := by
  intro c e c' h
  rcases call_bind_eq_error_iff.1 h with h | ⟨a, c₁, -, h⟩
  · exact hx c e c' h
  · exact hk a c₁ e c' h

theorem Atomic.adapt (hx : Atomic x) (f : ε → ε') : Atomic (ExceptT.adapt f x) := by
  intro c e c' h
  rw [call_adapt, Prod.mk.injEq, Except.mapError_eq_error_iff] at h
  obtain ⟨⟨e', he, -⟩, rfl⟩ := h
  exact hx c e' _ (Prod.ext he rfl)

theorem Succeeds.atomic (h : Succeeds x) : Atomic x :=
  fun c e c' hc => absurd hc (h c e c')

theorem succeeds_set (c₁ : Config) : Succeeds (MonadStateOf.set c₁ : Method ε PUnit) := by
  intro c e c' h
  cases h

end Method

open Method

variable {ε α : Type}

theorem assign_succeeds (value : Option α) (write : α → Config → Config) :
    Succeeds (assign value write : Method ε Unit) := by
  intro c e c' h
  cases value <;> cases h

/-- The URL is read before it is taken over. -/
theorem assignTarget_atomic (text : Option String) : Atomic (assignTarget text) := by
  intro c e c' h
  rw [assignTarget.eq_def] at h
  split at h
  · cases h
  · split at h
    · cases h
    · cases h
      rfl

/-- Nothing that can fail comes behind the URL. -/
theorem apply_atomic (o : Overrides) : Atomic o.apply :=
  (assignTarget_atomic o.targetUrl).bind fun _ =>
    (assign_succeeds o.timeoutSecs _).bind fun _ => assign_succeeds o.userAgent _

/-- With the timeout first, a bad URL would leave it behind. -/
example : ¬ Atomic (do
    assign (some 5) fun n c => { c with timeoutSecs := some n }
    assignTarget (some "x")) := by
  intro h
  cases h default ⟨"x", .relativeWithoutBase⟩ ⟨defaultTarget, some 5, none⟩ rfl

theorem call_replace_eq_error {r : Except ε Config} {c c' : Config} {e : ε}
    (h : (replace r).call c = (.error e, c')) : r = .error e := by
  rcases call_bind_eq_error_iff.1 h with h | ⟨_, _, -, h⟩
  · rw [call_ofExcept] at h
    exact congrArg Prod.fst h
  · cases h

theorem replace_atomic (r : Except ε Config) : Atomic (replace r) :=
  (reads_ofExcept r).bind fun c => (succeeds_set c).atomic

end Liveness.Config
