import Liveness.Proofs.Config.Layers
import Liveness.Proofs.Config.RoundTrip

/-! Targets and their hosts. Under the schemes of the web no text is read as a URL without a
host, so that a host is never what a configuration lacks, whatever it has come from. -/

namespace Liveness.Config

open Files (View)

/-- A URL with a host of which there is something to write. -/
def HasHost (u : Url) : Prop := ∃ h, u.host? = some h ∧ h.print ≠ []

/-- The configurations that can come up, fit for use or not: the default one, what a text
gives, what overrides make of any of these, and what is loaded. -/
inductive Arises : Config → Prop
  | default : Arises Config.default
  | text {format : Format} {text : String} {d : Draft} : Draft.read format text = .ok d →
      Arises d.finish
  | override {c c' : Config} {o : Overrides} : Arises c → c.override o = .ok c' → Arises c'
  | load {files : View} {args : List String} {e : Environment} {c : Config} :
      load files args e = .ok c → Arises c

def Unfit.LacksHost : Unfit → Prop
  | .noHost _ => True
  | _ => False

def ParseError.LacksHost : ParseError → Prop
  | .unfit u => u.LacksHost
  | _ => False

def LoadError.LacksHost : LoadError → Prop
  | .parse e => e.LacksHost
  | .unfit u => u.LacksHost
  | _ => False

def SessionError.LacksHost : SessionError → Prop
  | .parse e => e.LacksHost
  | .unfit u => u.LacksHost
  | _ => False

theorem hasHost_of_isRead {u : Url} (h : u.IsRead) : HasHost u := by
  obtain ⟨a, ha, hread⟩ := h.authority
  obtain ⟨host, hhost, hread⟩ := hread.host
  refine ⟨host, ?_, Url.Host.print_ne_nil hread⟩
  rw [Url.host?, ha]
  exact hhost

theorem hasHost_of_isTarget {u : Url} (h : IsTarget u)
    (hweb : u.scheme = "http" ∨ u.scheme = "https") : HasHost u :=
  hasHost_of_isRead (isRead_of_isTarget h hweb)

theorem isTarget_of_gives {files : View} {path : Option String} {d : Draft}
    (h : Gives files path d) : IsTarget d.finish.targetUrl := by
  cases h with
  | nothing => exact isTarget_default
  | file _ hd _ => exact isTarget_finish hd

theorem isTarget_layered {files : View} {path : Option String} {d : Draft} {o : Overrides}
    {p : Overlay} (hd : Gives files path d) (hp : o.overlay = .ok p) :
    IsTarget (layered d p).targetUrl := by
  rw [← finish_overlaid]
  exact isTarget_overlaid (isTarget_of_gives hd) (parsed_of_overlay hp)

theorem isTarget_of_arises {c : Config} (h : Arises c) : IsTarget c.targetUrl := by
  induction h with
  | default => exact isTarget_default
  | text hd => exact isTarget_finish hd
  | override _ ho ih => exact isTarget_of_override ih ho
  | load hl =>
    obtain ⟨-, hd, -, hp, -⟩ := loads_of_load hl
    exact isTarget_layered hd hp

section

variable {c : Config} (hc : IsTarget c.targetUrl)
include hc

theorem not_lacksHost {u : Unfit} (h : Lacks c u) : ¬ u.LacksHost := by
  intro hu
  cases h with
  | web => exact hu
  | host hweb hnone =>
    obtain ⟨host, hhost, -⟩ := hasHost_of_isTarget hc hweb
    rw [hnone] at hhost
    cases hhost
  | time => exact hu

theorem fit_of_isTarget (hweb : c.targetUrl.scheme = "http" ∨ c.targetUrl.scheme = "https")
    (ht : c.timeoutSecs ≠ some 0) : c.Fit := by
  obtain ⟨host, hhost, -⟩ := hasHost_of_isTarget hc hweb
  exact ⟨hweb, by rw [hhost]; exact Option.some_ne_none host, ht⟩

theorem validate_iff_of_isTarget : c.validate = .ok () ↔
    (c.targetUrl.scheme = "http" ∨ c.targetUrl.scheme = "https") ∧ c.timeoutSecs ≠ some 0 := by
  rw [validate_eq_ok_iff]
  exact ⟨fun h => ⟨h.web, h.time⟩, fun h => fit_of_isTarget hc h.1 h.2⟩

end

theorem not_lacksHost_of_parse {format : Format} {text : String} {err : ParseError}
    (h : parse format text = .error err) : ¬ err.LacksHost := by
  rw [parse_eq] at h
  rcases Except.bind_eq_error_iff.1 h with hread | ⟨d, hread, h⟩
  · cases format with
    | json =>
      obtain ⟨_, -, rfl⟩ := Except.mapError_eq_error_iff.1 hread
      exact id
    | yaml =>
      obtain ⟨_, -, rfl⟩ := Except.mapError_eq_error_iff.1 hread
      exact id
  · obtain ⟨u, hu, rfl⟩ := Except.mapError_eq_error_iff.1 (Except.map_eq_error_iff.1 h)
    exact not_lacksHost (isTarget_finish hread) (validate_eq_error_iff.1 hu)

theorem not_lacksHost_of_load {files : View} {args : List String} {e : Environment}
    {err : LoadError} (h : load files args e = .error err) : ¬ err.LacksHost := by
  cases stops_of_load h with
  | file _ hw =>
    cases hw with
    | noFile => exact id
    | directory => exact id
    | notText => exact id
    | unreadable => exact id
    | parse _ hp => exact not_lacksHost_of_parse hp
  | environment => exact id
  | target => exact id
  | unfit _ hd _ hp hl => exact not_lacksHost (isTarget_layered hd hp) hl

theorem not_lacksHost_of_call {c c' : Config} (hc : IsTarget c.targetUrl) {s : SessionStep}
    {err : SessionError} (h : s.apply.call c = (.error err, c')) : ¬ err.LacksHost := by
  cases s with
  | parse format contents =>
    obtain ⟨e, hp, rfl⟩ := Except.mapError_eq_error_iff.1 (call_replace_eq_error h)
    exact not_lacksHost_of_parse hp
  | set fields =>
    obtain ⟨_, -, rfl⟩ := Except.mapError_eq_error_iff.1 (call_replace_eq_error h)
    exact id
  | override fields =>
    rw [SessionStep.apply, Method.call_adapt] at h
    obtain ⟨_, -, rfl⟩ := Except.mapError_eq_error_iff.1 (congrArg Prod.fst h)
    exact id
  | environment e =>
    rcases Method.call_bind_eq_error_iff.1 h with h | ⟨o, _, -, h⟩
    · rw [Method.call_ofExcept] at h
      obtain ⟨_, -, rfl⟩ := Except.mapError_eq_error_iff.1 (congrArg Prod.fst h)
      exact id
    · rw [Method.call_adapt] at h
      obtain ⟨_, -, rfl⟩ := Except.mapError_eq_error_iff.1 (congrArg Prod.fst h)
      exact id
  | validate =>
    rcases Method.call_bind_eq_error_iff.1 h with h | ⟨_, _, ⟨⟩, h⟩
    · cases h
    · rw [Method.call_ofExcept] at h
      obtain ⟨u, hu, rfl⟩ := Except.mapError_eq_error_iff.1 (congrArg Prod.fst h)
      exact not_lacksHost hc (validate_eq_error_iff.1 hu)

/-- No step of a run reports a missing host. -/
theorem not_lacksHost_of_session {c : Config} (hc : IsTarget c.targetUrl)
    {steps : List SessionStep} {err : SessionError} {after : Config}
    (h : (some err, after) ∈ session c steps) : ¬ err.LacksHost := by
  induction steps generalizing c with
  | nil => cases h
  | cons s steps ih =>
    rw [session_cons] at h
    rcases List.mem_cons.1 h with h | h
    · obtain ⟨herr, -⟩ := Prod.mk.inj h
      exact not_lacksHost_of_call hc (SessionStep.call_of_error? herr.symm)
    · exact ih (isTarget_next hc s) h

/-- A host is never what is missing. Every URL of the web that a text is read as has one, so
that a configuration, whatever it has come from, is fit for use exactly if its scheme is one of
the web and its timeout is not zero; and neither parsing nor loading nor any step of a session
ends with the error for a missing host. -/
theorem host_never_lacking :
    (∀ (text : String) (u : Url), Url.parse text = .ok u →
      u.scheme = "http" ∨ u.scheme = "https" → HasHost u) ∧
    (∀ c, Arises c → (∀ u, c.validate = .error u → ¬ u.LacksHost) ∧
      (c.validate = .ok () ↔
        (c.targetUrl.scheme = "http" ∨ c.targetUrl.scheme = "https") ∧
          c.timeoutSecs ≠ some 0)) ∧
    (∀ (format : Format) (text : String) (err : ParseError),
      parse format text = .error err → ¬ err.LacksHost) ∧
    (∀ (files : View) (args : List String) (e : Environment) (err : LoadError),
      load files args e = .error err → ¬ err.LacksHost) ∧
    ∀ (steps : List SessionStep) (err : SessionError) (after : Config),
      (some err, after) ∈ session default steps → ¬ err.LacksHost := by
  refine ⟨fun text u h hweb => hasHost_of_isTarget (.inr ⟨text, h⟩) hweb, fun c hc => ?_,
    fun _ _ _ h => not_lacksHost_of_parse h, fun _ _ _ _ h => not_lacksHost_of_load h,
    fun _ _ _ h => not_lacksHost_of_session isTarget_default h⟩
  have htarget := isTarget_of_arises hc
  exact ⟨fun u hu => not_lacksHost htarget (validate_eq_error_iff.1 hu),
    validate_iff_of_isTarget htarget⟩

/-- The address of the loopback, behind the name of a user. -/
def loopback : Url :=
  { scheme := "http"
    authority := some ⟨"x", none, some (.ipv6 ⟨[0, 0, 0, 0, 0, 0, 0, 1], rfl⟩), none⟩
    path := .segments [""]
    query := none
    fragment := none }

theorem parse_loopback : Url.parse "http:\\x@\t[::1]:080" = .ok loopback := by
  decide +kernel

/-- The URL is written with a backslash and a tab, and has its host; with no time left it is
the timeout that makes the configuration unfit, as it does in a session, and neither a text nor
a path that leads nowhere is refused for a host. -/
theorem host_never_lacking_loopback :
    HasHost loopback ∧ Arises ⟨loopback, some 0, none⟩ ∧
      (⟨loopback, some 0, none⟩ : Config).validate = .error .zeroTimeout ∧
      ¬ Unfit.zeroTimeout.LacksHost ∧
      (⟨loopback, some 0, none⟩ : Config).validate ≠ .ok () ∧
      (∃ err, parse .json "" = .error err ∧ ¬ err.LacksHost) ∧
      (∃ err, load (fun _ => .error .notFound) ["c"] .empty = .error err ∧ ¬ err.LacksHost) ∧
      ∃ err after, (some err, after) ∈ session default [.override ⟨none, some 0, none⟩, .validate] ∧
        ¬ err.LacksHost := by
  obtain ⟨hurl, hconfig, hparse, hloads, hsession⟩ := host_never_lacking
  have hoverride : default.override ⟨some "http:\\x@\t[::1]:080", some 0, none⟩ =
      .ok ⟨loopback, some 0, none⟩ := by
    refine override_eq_ok_iff.2 ⟨⟨some loopback, some 0, none⟩, ?_, rfl⟩
    rw [Overrides.overlay, Overrides.target]
    simp only [parse_loopback]
    rfl
  have harises : Arises ⟨loopback, some 0, none⟩ := .override .default hoverride
  obtain ⟨hlacks, hvalid⟩ := hconfig _ harises
  have hzero : (⟨loopback, some 0, none⟩ : Config).validate = .error .zeroTimeout := rfl
  have hstep : (some (.unfit .zeroTimeout), ⟨defaultTarget, some 0, none⟩) ∈
      session default [.override ⟨none, some 0, none⟩, .validate] :=
    List.mem_cons_of_mem _ List.mem_cons_self
  have hempty : parse .json "" = .error (.json "" (Json.Error.on .eofInValue [])) := rfl
  have hload : load (fun _ => .error .notFound) ["c"] .empty = .error (.noFile "c") := rfl
  exact ⟨hurl _ _ parse_loopback (.inl rfl), harises, hzero, hlacks _ hzero,
    fun h => (hvalid.1 h).2 rfl, ⟨_, hempty, hparse _ _ _ hempty⟩, ⟨_, hload, hloads _ _ _ _ hload⟩,
    ⟨_, _, hstep, hsession _ _ _ hstep⟩⟩

end Liveness.Config
