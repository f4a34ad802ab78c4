import Liveness.Http.Client
import Liveness.Proofs.Config.Targets
import Liveness.Proofs.Config.Written
import Liveness.Proofs.Url.LongNames

/-! A configuration and its JSON text. Whatever a session has come to, if it is fit for use it
is what its text is read as; only a host whose name has a code that is too long to be read
keeps the text from being read, and the client from making a request. -/

namespace Liveness.Config

open Http (Client Wire)

theorem isRead_defaultTarget : defaultTarget.IsRead := by
  have hname : ∀ e ∈ ["localhost".toList], ∀ c ∈ e, Url.Host.IsPlain c := by
    have key : ("localhost".toList.all fun c =>
        decide (c.toNat < 0x80) && !Url.Host.isForbidden c && decide (c ≠ '.')) = true := by decide
    intro e he c hc
    rw [List.mem_singleton.1 he] at hc
    have := List.all_eq_true.1 key c hc
    simp only [Bool.and_eq_true, decide_eq_true_eq, Bool.not_eq_true'] at this
    exact ⟨this.1.1, this.1.2, this.2⟩
  have hascii : Url.Host.domainToAscii? "localhost".toList = some "localhost".toList :=
    Url.Host.domainToAscii?_of_plain (List.cons_ne_nil _ []) hname (by decide)
  refine ⟨by decide, ⟨_, rfl, ⟨?_, ?_, ⟨_, rfl, ⟨_, hascii⟩, by decide, by decide⟩, ?_⟩⟩,
    ⟨List.cons_ne_nil _ _, ?_⟩, ?_, ?_⟩
  · exact fun c hc => absurd hc List.not_mem_nil
  · rintro p ⟨⟩
  · rintro p ⟨⟩
    decide
  · intro n hn
    rw [List.mem_singleton.1 hn]
    exact Url.isSegment_nil
  · rintro q ⟨⟩
  · rintro f ⟨⟩

theorem isReadable_defaultTarget : defaultTarget.IsReadable := by
  rintro h ⟨⟩
  change ∀ e ∈ Url.Host.splitOn '.' "localhost".toList, Url.Host.HasReadableCode e
  have hsplit : Url.Host.splitOn '.' "localhost".toList = ["localhost".toList] := by decide
  rw [hsplit]
  intro e he hcode
  rw [List.mem_singleton.1 he] at hcode
  exact absurd hcode (by decide)

/-- Under the schemes of the web all targets keep what is known of URLs that were read. -/
theorem isRead_of_isTarget {u : Url} (h : IsTarget u)
    (hweb : u.scheme = "http" ∨ u.scheme = "https") : u.IsRead := by
  have hkind : Url.Kind.ofScheme u.scheme = .web := by
    rcases hweb with hs | hs <;> rw [hs] <;> decide
  rcases h with rfl | ⟨text, htext⟩
  · exact isRead_defaultTarget
  · exact Url.isRead_of_parse htext hkind

theorem fetch_of_parse {m : Type → Type} [Monad m] {κ : Type} (w : Wire m κ) (client : Client)
    {u : Url} (h : Url.parse u.toText = .ok u) : client.fetch w u = client.fetchUrl w u := by
  rw [Client.fetch, h]

/-- The law of the round trip. A configuration of a session that is fit for use is what its
JSON text is read as, and a URL of the web that some text was read as is what its own text is
read as, by the client as well; except that a name with too long a code is refused. -/
theorem session_round_trip :
    (∀ (steps : List SessionStep) (c : Config), c ∈ states default steps → c.validate = .ok () →
      (c.targetUrl.IsReadable → parse .json c.toJson.compact = .ok c) ∧
      (¬ c.targetUrl.IsReadable →
        ∃ e, parse .json c.toJson.compact = .error (.json c.toJson.compact e) ∧
          e.cause = .invalidUrl .invalidInternationalName c.targetUrl.toText)) ∧
    ∀ (text : String) (u : Url), Url.parse text = .ok u →
      u.scheme = "http" ∨ u.scheme = "https" →
      (u.IsReadable → Url.parse u.toText = .ok u ∧
        ∀ {m : Type → Type} [Monad m] {κ : Type} (w : Wire m κ) (client : Client),
          client.fetch w u = client.fetchUrl w u) ∧
      (¬ u.IsReadable → Url.parse u.toText = .error .invalidInternationalName ∧
        ∀ {m : Type → Type} [Monad m] {κ : Type} (w : Wire m κ) (client : Client),
          client.fetch w u = pure (.error (.unreadableUrl .invalidInternationalName))) := by
  refine ⟨fun steps c hmem hvalid => ?_, fun text u htext hweb => ?_⟩
  · have hfit := validate_eq_ok_iff.1 hvalid
    have hread := isRead_of_isTarget (isTarget_of_mem_states isTarget_default hmem) hfit.web
    exact ⟨fun hr => parse_compact hfit (Url.parse_toText_of_readable hread hr), fun hr =>
      parse_compact_of_error (Url.parse_toText_of_not_readable hread hr)⟩
  · have hread := isRead_of_isTarget (.inr ⟨text, htext⟩) hweb
    refine ⟨fun hr => ?_, fun hr => ?_⟩
    · have h := Url.parse_toText_of_readable hread hr
      exact ⟨h, fun w client => fetch_of_parse w client h⟩
    · have h := Url.parse_toText_of_not_readable hread hr
      exact ⟨h, fun w client => by rw [Client.fetch, h]⟩

/-- The default is read back from its text; a URL that names 700 ideographs is not, though it
was read. -/
theorem session_round_trip_default :
    default ∈ states default [.validate] ∧ default.validate = .ok () ∧
      parse .json default.toJson.compact = .ok default ∧
      Url.parse Url.longTarget = .ok Url.longUrl ∧
      Url.parse Url.longUrl.toText = .error .invalidInternationalName := by
  have hvalid : default.validate = .ok () := rfl
  have hmem : default ∈ states default [.validate] := List.mem_cons_self
  exact ⟨hmem, hvalid, (session_round_trip.1 _ _ hmem hvalid).1 isReadable_defaultTarget,
    Url.parse_longTarget, ((session_round_trip.2 _ _ Url.parse_longTarget (.inl rfl)).2
      Url.not_isReadable_longUrl).1⟩

theorem next_set_target (c : Config) {text : String} {u : Url} (h : Url.parse text = .ok u) :
    SessionStep.next c (.set ⟨some text, none, none⟩) = ⟨u, none, none⟩ := by
  have hset : default.override ⟨some text, none, none⟩ = .ok ⟨u, none, none⟩ := by
    refine override_eq_ok_iff.2 ⟨⟨some u, none, none⟩, ?_, rfl⟩
    rw [Overrides.overlay, Overrides.target]
    simp only [h]
    rfl
  rw [SessionStep.next_set, hset]
  rfl

theorem isTarget_longUrl : IsTarget Url.longUrl := .inr ⟨_, Url.parse_longTarget⟩

theorem fit_longUrl : Fit ⟨Url.longUrl, none, none⟩ :=
  ⟨.inl rfl, Option.some_ne_none _, Option.some_ne_none _ ∘ Eq.symm⟩

theorem parse_toText_longUrl :
    Url.parse Url.longUrl.toText = .error .invalidInternationalName :=
  Url.parse_toText_of_not_readable (isRead_of_isTarget isTarget_longUrl fit_longUrl.web)
    Url.not_isReadable_longUrl

/-- A session with one step in it comes to a configuration that is fit for use and is not what
its text is read as: the name has 700 ideographs, and its code more than two thousand
characters. -/
theorem session_long_name :
    ∃ c ∈ states default [.set ⟨some Url.longTarget, none, none⟩], c.validate = .ok () ∧
      parse .json c.toJson.compact ≠ .ok c := by
  have hset := next_set_target default Url.parse_longTarget
  refine ⟨⟨Url.longUrl, none, none⟩, ?_, validate_of_fit fit_longUrl, fun h => ?_⟩
  · rw [states_cons, hset]
    exact List.mem_cons_of_mem _ List.mem_cons_self
  · obtain ⟨e, he, -⟩ := parse_compact_of_error (c := ⟨Url.longUrl, none, none⟩)
      parse_toText_longUrl
    rw [he] at h
    cases h

end Liveness.Config
