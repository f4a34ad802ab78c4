import Liveness.Config.Parse
import Liveness.Proofs.Except

/-! What a configuration has to be like to be fit for use, and what is told of one that is
not. -/

namespace Liveness.Config

/-- A target of the web on some host, and a timeout that leaves some time. -/
structure Fit (c : Config) : Prop where
  web : c.targetUrl.scheme = "http" ∨ c.targetUrl.scheme = "https"
  host : c.targetUrl.host? ≠ none
  time : c.timeoutSecs ≠ some 0

/-- What a configuration lacks. Of several things the first one in this order is told. -/
inductive Lacks (c : Config) : Unfit → Prop
  | web : c.targetUrl.scheme ≠ "http" → c.targetUrl.scheme ≠ "https" →
      Lacks c (.unsupportedScheme c.targetUrl.scheme)
  | host : c.targetUrl.scheme = "http" ∨ c.targetUrl.scheme = "https" →
      c.targetUrl.host? = none → Lacks c (.noHost c.targetUrl.toText)
  | time : c.targetUrl.scheme = "http" ∨ c.targetUrl.scheme = "https" →
      c.targetUrl.host? ≠ none → c.timeoutSecs = some 0 → Lacks c .zeroTimeout

theorem validate_of_fit {c : Config} (h : c.Fit) : c.validate = .ok () := by
  obtain ⟨hw, hh, ht⟩ := h
  have hw' : ¬ (c.targetUrl.scheme ≠ "http" ∧ c.targetUrl.scheme ≠ "https") := by
    rcases hw with hw | hw <;> simp [hw]
  unfold validate
  rw [if_neg hw', if_neg (by simpa using hh), if_neg ht]

theorem validate_of_lacks {c : Config} {u : Unfit} (h : Lacks c u) : c.validate = .error u := by
  unfold validate
  cases h with
  | web h1 h2 => rw [if_pos ⟨h1, h2⟩]
  | host hw hn => rcases hw with hw | hw <;> simp [hw, hn]
  | time hw hh ht => rcases hw with hw | hw <;> simp [hw, hh, ht]

/-- Every configuration is fit or lacks something. -/
theorem fit_or_lacks (c : Config) : c.Fit ∨ ∃ u, Lacks c u := by
  by_cases hw : c.targetUrl.scheme = "http" ∨ c.targetUrl.scheme = "https"
  · by_cases hh : c.targetUrl.host? = none
    · exact .inr ⟨_, .host hw hh⟩
    · by_cases ht : c.timeoutSecs = some 0
      · exact .inr ⟨_, .time hw hh ht⟩
      · exact .inl ⟨hw, hh, ht⟩
  · rw [not_or] at hw
    exact .inr ⟨_, .web hw.1 hw.2⟩

theorem validate_eq_ok_iff {c : Config} : c.validate = .ok () ↔ c.Fit := by
  refine ⟨fun h => ?_, validate_of_fit⟩
  rcases fit_or_lacks c with hf | ⟨u, hu⟩
  · exact hf
  · rw [validate_of_lacks hu] at h
    cases h

theorem validate_eq_error_iff {c : Config} {u : Unfit} : c.validate = .error u ↔ Lacks c u := by
  refine ⟨fun h => ?_, validate_of_lacks⟩
  rcases fit_or_lacks c with hf | ⟨v, hv⟩
  · rw [validate_of_fit hf] at h
    cases h
  · rw [validate_of_lacks hv] at h
    cases h
    exact hv

/-- Reading a text in two stages: its fields, and their fitness. -/
theorem parse_eq (format : Format) (text : String) :
    parse format text = (Draft.read format text).bind fun d =>
      (d.finish.validate.mapError .unfit).map fun _ => d.finish := by
  unfold parse
  cases Draft.read format text with
  | error e => rfl
  | ok d => cases d.finish.validate <;> rfl

theorem parse_eq_ok_iff {format : Format} {text : String} {c : Config} :
    parse format text = .ok c ↔ ∃ d, Draft.read format text = .ok d ∧ d.finish = c ∧ c.Fit := by
  simp only [parse_eq, Except.bind_eq_ok_iff, Except.map_eq_ok_iff, Except.mapError_eq_ok_iff]
  constructor
  · rintro ⟨d, hd, ⟨⟩, hv, rfl⟩
    exact ⟨d, hd, rfl, validate_eq_ok_iff.1 hv⟩
  · rintro ⟨d, hd, rfl, hf⟩
    exact ⟨d, hd, (), validate_of_fit hf, rfl⟩

end Liveness.Config
