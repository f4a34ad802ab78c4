import Liveness.Proofs.Config.Fitness
import Liveness.Proofs.Config.History

/-! Where the URL of a configuration comes from: it is the default one, or the reading of some
text. This holds for whatever files, environments and steps a configuration comes from. -/

namespace Liveness.Config

/-- A URL that some text is read as. -/
def Parsed (u : Url) : Prop := ∃ text, Url.parse text = .ok u

/-- What a draft gives for the URL is the reading of some text. -/
def Draft.Parsed (d : Draft) : Prop := ∀ u ∈ d.targetUrl, Config.Parsed u

theorem Draft.parsed_empty : Draft.empty.Parsed := by
  rintro u ⟨⟩

namespace OfJson

variable {d d' : Draft} {cs rest : List Char}

theorem parsed_of_readUrl {u : Url} (h : readUrl cs = .ok (u, rest)) : Parsed u := by
  unfold readUrl at h
  split at h
  · cases h
  · next text _ _ =>
    split at h
    · next hu => cases h; exact ⟨text, hu⟩
    · cases h

theorem parsed_of_readField {f : Field} (hd : d.Parsed)
    (h : readField d f cs = .ok (d', rest)) : d'.Parsed := by
  cases f with
  | targetUrl =>
    obtain ⟨⟨u, _⟩, hu, ⟨⟩⟩ := Except.map_eq_ok_iff.1 h
    rintro _ ⟨⟩
    exact parsed_of_readUrl hu
  | timeoutSecs =>
    obtain ⟨_, -, ⟨⟩⟩ := Except.map_eq_ok_iff.1 h
    exact hd
  | userAgent =>
    obtain ⟨_, -, ⟨⟩⟩ := Except.map_eq_ok_iff.1 h
    exact hd

theorem parsed_of_readMember (hd : d.Parsed) (h : readMember d cs = .ok (d', rest)) :
    d'.Parsed := by
  unfold readMember at h
  split at h
  · cases h
  · split at h
    · split at h
      · cases h
      · obtain ⟨_, -, h⟩ := Except.bind_eq_ok_iff.1 h
        exact parsed_of_readField hd h
    · obtain ⟨_, -, ⟨⟩⟩ := Except.map_eq_ok_iff.1 h
      exact hd

theorem parsed_of_readMembers (hd : d.Parsed) (h : readMembers d cs = .ok (d', rest)) :
    d'.Parsed := by
  fun_induction readMembers d cs with
  | case1 => cases h
  | case2 => cases h
  | case3 d cs d₁ r hm => cases h; exact parsed_of_readMember hd hm
  | case4 d cs d₁ r hm r' hn _ _ ih => exact ih (parsed_of_readMember hd hm) h

theorem parsed_of_readItems {fs : List Field} (hd : d.Parsed)
    (h : readItems d fs cs = .ok (d', rest)) : d'.Parsed := by
  induction fs generalizing d cs with
  | nil => cases h; exact hd
  | cons f fs ih =>
    rw [readItems] at h
    split at h
    · cases h
    · next hf =>
      have hd := parsed_of_readField hd hf
      split at h
      · cases h; exact hd
      · split at h
        · cases h
        · cases h; exact hd
        · exact ih hd h

theorem parsed_of_readObject (h : readObject cs = .ok (d, rest)) : d.Parsed := by
  unfold readObject at h
  split at h
  · cases h
  · cases h; exact Draft.parsed_empty
  · exact parsed_of_readMembers Draft.parsed_empty h

theorem parsed_of_readList (h : readList cs = .ok (d, rest)) : d.Parsed := by
  unfold readList at h
  split at h
  · cases h
  · split at h
    · cases h; exact Draft.parsed_empty
    · split at h
      · cases h
      · next hitems =>
        obtain ⟨_, -, ⟨⟩⟩ := Except.map_eq_ok_iff.1 h
        exact parsed_of_readItems Draft.parsed_empty hitems

theorem parsed_of_readDraft (h : readDraft cs = .ok (d, rest)) : d.Parsed := by
  unfold readDraft at h
  split at h
  · cases h
  · split at h
    · exact parsed_of_readList h
    · split at h
      · exact parsed_of_readObject h
      · cases h

end OfJson

theorem Draft.parsed_of_json {text : String} {d : Draft} (h : Draft.ofJson text = .ok d) :
    d.Parsed := by
  unfold Draft.ofJson at h
  split at h
  · cases h
  · next hd =>
    split at h
    · cases h; exact OfJson.parsed_of_readDraft hd
    · cases h

namespace OfYaml

variable {d d' : Draft}

theorem parsed_of_readField {f : Field} {p : Place} {n : Yaml.Node} (hd : d.Parsed)
    (h : readField d f p n = .ok d') : d'.Parsed := by
  cases f with
  | targetUrl =>
    obtain ⟨u, hu, ⟨⟩⟩ := Except.map_eq_ok_iff.1 h
    obtain ⟨text, -, hu⟩ := Except.bind_eq_ok_iff.1 hu
    rintro _ ⟨⟩
    exact ⟨text, Except.mapError_eq_ok_iff.1 hu⟩
  | timeoutSecs =>
    obtain ⟨_, -, ⟨⟩⟩ := Except.map_eq_ok_iff.1 h
    exact hd
  | userAgent =>
    obtain ⟨_, -, ⟨⟩⟩ := Except.map_eq_ok_iff.1 h
    exact hd

theorem parsed_of_readMembers {doc : Yaml.Document} {start : Yaml.Mark} {ns : List Yaml.Node}
    (hd : d.Parsed) (h : readMembers doc start d ns = .ok d') : d'.Parsed := by
  fun_induction readMembers doc start d ns with
  | case2 => cases h; exact hd
  | case5 => next ih => exact ih hd h
  | case9 => next hf ih => exact ih (parsed_of_readField hd hf) h
  | _ => cases h

theorem parsed_of_readDraft {doc : Yaml.Document} (h : readDraft doc = .ok d) : d.Parsed := by
  unfold readDraft at h
  split at h
  · split at h
    · cases h; exact Draft.parsed_empty
    · cases h
  · split at h
    · exact parsed_of_readMembers Draft.parsed_empty h
    · cases h; exact Draft.parsed_empty
    · cases h

end OfYaml

theorem Draft.parsed_of_yaml {text : String} {d : Draft} (h : Draft.ofYaml text = .ok d) :
    d.Parsed := by
  unfold Draft.ofYaml at h
  obtain ⟨d₁, hd₁, h⟩ := Except.bind_eq_ok_iff.1 h
  have hd₁ := OfYaml.parsed_of_readDraft hd₁
  split at h
  · cases h
  · split at h
    · cases h; exact hd₁
    · cases h

/-- The default URL, or one that some text is read as. -/
def IsTarget (u : Url) : Prop := u = defaultTarget ∨ Parsed u

/-- What a text gives has a target, whether it is fit for use or not. -/
theorem isTarget_finish {format : Format} {text : String} {d : Draft}
    (h : Draft.read format text = .ok d) : IsTarget d.finish.targetUrl := by
  have hparsed : d.Parsed := by
    cases format with
    | json => exact Draft.parsed_of_json (Except.mapError_eq_ok_iff.1 h)
    | yaml => exact Draft.parsed_of_yaml (Except.mapError_eq_ok_iff.1 h)
  cases hu : d.targetUrl with
  | none => exact .inl (by rw [Draft.finish, hu]; rfl)
  | some u => exact .inr (by rw [Draft.finish, hu]; exact hparsed u hu)

theorem isTarget_of_parse {format : Format} {text : String} {c : Config}
    (h : parse format text = .ok c) : IsTarget c.targetUrl := by
  obtain ⟨d, hd, rfl, -⟩ := parse_eq_ok_iff.1 h
  exact isTarget_finish hd

theorem parsed_of_overlay {o : Overrides} {p : Overlay} (h : o.overlay = .ok p) :
    ∀ u ∈ p.targetUrl, Parsed u := by
  obtain ⟨u, hu, rfl⟩ := Except.map_eq_ok_iff.1 h
  rintro v ⟨⟩
  unfold Overrides.target at hu
  split at hu
  · cases hu
  · next text _ =>
    split at hu
    · next hv => cases hu; exact ⟨text, hv⟩
    · cases hu

theorem isTarget_overlaid {c : Config} (hc : IsTarget c.targetUrl) {p : Overlay}
    (hp : ∀ u ∈ p.targetUrl, Parsed u) : IsTarget (c.overlaid p).targetUrl := by
  cases hu : p.targetUrl with
  | none => simpa [overlaid, hu] using hc
  | some u => exact .inr (by simpa [overlaid, hu] using hp u hu)

theorem isTarget_of_override {c c' : Config} (hc : IsTarget c.targetUrl) {o : Overrides}
    (h : c.override o = .ok c') : IsTarget c'.targetUrl := by
  obtain ⟨p, hp, rfl⟩ := override_eq_ok_iff.1 h
  exact isTarget_overlaid hc (parsed_of_overlay hp)

theorem isTarget_default : IsTarget default.targetUrl := .inl rfl

theorem isTarget_of_replacement {s : SessionStep} {c : Config} (h : s.replacement? = some c) :
    IsTarget c.targetUrl := by
  cases s with
  | parse format contents => exact isTarget_of_parse (Except.toOption_eq_some_iff.1 h)
  | set fields =>
    exact isTarget_of_override isTarget_default
      ((override_eq default fields).trans (Except.toOption_eq_some_iff.1 h))
  | _ => cases h

theorem parsed_of_overlay? {s : SessionStep} {p : Overlay} (h : s.overlay? = some p) :
    ∀ u ∈ p.targetUrl, Parsed u := by
  cases s with
  | override fields => exact parsed_of_overlay (Except.toOption_eq_some_iff.1 h)
  | environment e =>
    obtain ⟨o, -, h⟩ := Option.bind_eq_some_iff.1 h
    exact parsed_of_overlay (Except.toOption_eq_some_iff.1 h)
  | _ => cases h

theorem isTarget_next {c : Config} (hc : IsTarget c.targetUrl) (s : SessionStep) :
    IsTarget (s.next c).targetUrl := by
  rw [SessionStep.next_eq]
  cases hr : s.replacement? with
  | some c' => exact isTarget_of_replacement hr
  | none =>
    cases ho : s.overlay? with
    | none => exact hc
    | some p => exact isTarget_overlaid hc (parsed_of_overlay? ho)

theorem states_cons (c : Config) (s : SessionStep) (steps : List SessionStep) :
    states c (s :: steps) = c :: states (s.next c) steps := by
  rw [states, session_cons]
  rfl

/-- All configurations of a run have the default URL or one that was read. -/
theorem isTarget_of_mem_states {c b : Config} (hc : IsTarget c.targetUrl)
    {steps : List SessionStep} (h : b ∈ states c steps) : IsTarget b.targetUrl := by
  induction steps generalizing c with
  | nil =>
    cases List.mem_singleton.1 h
    exact hc
  | cons s steps ih =>
    rw [states_cons] at h
    rcases List.mem_cons.1 h with rfl | h
    · exact hc
    · exact ih (isTarget_next hc s) h

end Liveness.Config
