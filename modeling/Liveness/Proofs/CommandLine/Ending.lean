import Liveness.CommandLine
import Liveness.Http.Network
import Liveness.Proofs.Config.Foreign
import Liveness.Proofs.Http.Waiting
import Liveness.Proofs.Probe.Fetch

/-! How the command ends: without a probe it tells why, and with one it prints the report,
whatever has come of the fetch. -/

namespace Liveness

def Json.Value.member? : Json.Value → String → Option Json.Value
  | .object members, name => members.lookup name
  | _, _ => none

namespace CommandLine

open Http Probe

variable {files : Files.View} {args : List String} {e : Environment}

/-- Only what makes the reading of the environment panic keeps the process from telling why it has
nothing to probe. -/
theorem ending_of_setup {vs : List (String × String)} (he : e.texts? = some vs)
    (hl : Config.InLists vs) {cause : SetupError} (h : setup files args e = .error cause) :
    cause.ending = .exited 1 "" (some ("Error: " ++ Text.Causes.listed cause.chain ++ "\n")) := by
  have hpanic : ∀ e', cause = .load (.environment e') → ¬ e'.IsPanic := by
    rintro e' rfl
    rcases Except.bind_eq_error_iff.1 h with h | ⟨c, -, h⟩
    · obtain ⟨err, hload, herr⟩ := Except.mapError_eq_error_iff.1 h
      cases herr
      exact Config.not_isPanic_of_inLists he hl (Config.load_eq_environment_iff.1 hload).1
    · obtain ⟨_, -, herr⟩ := Except.mapError_eq_error_iff.1 h
      cases herr
  rw [SetupError.ending.eq_def]
  split
  · exact absurd (.inl rfl) (hpanic _ rfl)
  · exact absurd (.inr rfl) (hpanic _ rfl)
  · rfl

/-- A probe that has been set up makes the checks of every probe, and its client gives up
after the timeout that is configured. -/
theorem setup_eq_ok {probe : Probe} (h : setup files args e = .ok probe) :
    probe.checks = Check.defaults ∧ probe.client.timeoutSecs = probe.config.timeoutSecs := by
  obtain ⟨c, -, h⟩ := Except.bind_eq_ok_iff.1 h
  obtain rfl := ofConfig_eq_ok (Except.mapError_eq_ok_iff.1 h)
  exact ⟨rfl, rfl⟩

/-- A document that shows a target which has passed. -/
def ShowsSuccess (doc : Json.Value) : Prop :=
  doc.member? "status" = some (.number 200) ∧ doc.member? "error" = some .null ∧
    doc.member? "checks" = some (.object [("is status 200", .bool true)])

theorem showsSuccess_toJson_iff (r : Report) :
    ShowsSuccess r.toJson ↔
      r.status = some 200 ∧ r.error = none ∧ r.checks.entries = [("is status 200", true)] := by
  have hstatus : r.toJson.member? "status" =
      some (.ofOption (fun s => .number s.toNat) r.status) := rfl
  have herror : r.toJson.member? "error" = some (.ofOption .string r.error) := rfl
  have hchecks : r.toJson.member? "checks" = some r.checks.toJson := rfl
  rw [ShowsSuccess, hstatus, herror, hchecks, Option.some_inj, Option.some_inj, Option.some_inj]
  refine and_congr ?_ (and_congr ?_ ?_)
  · cases r.status with
    | none => simp [Json.Value.ofOption]
    | some s => simp [Json.Value.ofOption, ← UInt16.toNat_inj]
  · cases r.error <;> simp [Json.Value.ofOption]
  · rw [Check.Results.toJson, Json.Value.object.injEq, List.map_eq_singleton_iff]
    constructor
    · rintro ⟨⟨n, b⟩, he, hb⟩
      cases hb
      exact he
    · intro he
      exact ⟨_, he, rfl⟩

/-- The report of a probe with the usual checks passes if it shows a success. -/
theorem passed_ofOutcome_iff (stamp : Stamp) (target : Url) (o : Outcome) :
    (Report.ofOutcome stamp target Check.defaults o).passed = true ↔
      ShowsSuccess (Report.ofOutcome stamp target Check.defaults o).toJson := by
  have hchecks : ∀ resp, (Check.evaluate resp Check.defaults).entries =
      [("is status 200", resp.any fun r => r.status == 200)] := fun resp => rfl
  rw [showsSuccess_toJson_iff, Report.passed, Check.Results.passed, Check.Results.isEmpty]
  cases o with
  | error f => simp [Report.ofOutcome, hchecks]
  | ok r => simp [Report.ofOutcome, hchecks]

theorem run_of_setup_ok {probe : Probe} (h : setup files args e = .ok probe) (stamp : Stamp)
    (l : Link) : run Link.wire (pure (pure stamp)) files args e l =
      (probe.report Link.wire (pure (pure stamp)) l).map fun x => (ofReport x.1, x.2) := by
  rw [run, h]
  exact Link.map_apply _ _ l

theorem run_of_setup_error {cause : SetupError} (h : setup files args e = .error cause)
    (stamp : Stamp) (l : Link) :
    run Link.wire (pure (pure stamp)) files args e l = some (cause.ending, l) := by
  rw [run, h]
  rfl

/-- How a run ends. If there is no probe it has sent nothing, prints nothing and tells why, where
the environment is a text and no index in it leads out of its list. With a probe it prints the
report, whatever the server has done, and the code tells what the report shows; only a response
that stays incomplete on an open connection keeps it, if there is no timeout, from ending at
all. -/
theorem run_ends (files : Files.View) (args : List String) (e : Environment) (stamp : Stamp)
    (l : Link) :
    (∀ cause, setup files args e = .error cause →
      run Link.wire (pure (pure stamp)) files args e l = some (cause.ending, l) ∧
      ∀ vs, e.texts? = some vs → Config.InLists vs → cause.ending =
        .exited 1 "" (some ("Error: " ++ Text.Causes.listed cause.chain ++ "\n"))) ∧
    ∀ probe, setup files args e = .ok probe →
      (∃ report l' exit, probe.report Link.wire (pure (pure stamp)) l = some (report, l') ∧
        run Link.wire (pure (pure stamp)) files args e l =
          some (.exited exit (report.toJson.pretty ++ "\n") none, l') ∧
        (exit = 0 ∧ ShowsSuccess report.toJson ∨ exit = 1 ∧ ¬ ShowsSuccess report.toJson)) ∨
      (run Link.wire (pure (pure stamp)) files args e l = none ∧
        probe.config.timeoutSecs = none ∧ ∃ reply ∈ l.network.replies, reply.IsPending) := by
  refine ⟨fun cause h => ⟨run_of_setup_error h stamp l, fun vs he hl => ending_of_setup he hl h⟩,
    fun probe h => ?_⟩
  obtain ⟨hchecks, htimeout⟩ := setup_eq_ok h
  rw [run_of_setup_ok h, report_link, hchecks]
  cases hf : probe.client.fetch Link.wire probe.config.targetUrl l with
  | none =>
    obtain ⟨hnone, hpending⟩ := fetch_eq_none hf
    exact .inr ⟨rfl, htimeout.symm.trans hnone, hpending⟩
  | some x =>
    have hpassed := passed_ofOutcome_iff stamp probe.config.targetUrl (outcome x.1)
    refine .inl ⟨_, x.2, _, rfl, rfl, ?_⟩
    by_cases hs : ShowsSuccess
        (Report.ofOutcome stamp probe.config.targetUrl Check.defaults (outcome x.1)).toJson
    · exact .inl ⟨if_pos (hpassed.2 hs), hs⟩
    · exact .inr ⟨if_neg fun hp => hs (hpassed.1 hp), hs⟩

/-- A missing file is told; a server that is not there is reported. -/
theorem run_ends_without_file_or_server :
    run Link.wire (pure (pure ⟨"", "", 0⟩)) Files.Node.empty.view ["a.json"] .empty
        (.ofNetwork .unreachable) =
      some (.exited 1 "" (some "Error: Specified config file does not exist: a.json\n"),
        .ofNetwork .unreachable) ∧
    ∃ exit output l', run Link.wire (pure (pure ⟨"", "", 0⟩)) Files.Node.empty.view [] .empty
      (.ofNetwork .unreachable) = some (.exited exit output none, l') := by
  have hlists : Config.InLists [] := fun v hv => nomatch hv
  constructor
  · obtain ⟨hrun, hending⟩ := (run_ends Files.Node.empty.view ["a.json"] .empty ⟨"", "", 0⟩
      (.ofNetwork .unreachable)).1 (.load (.noFile "a.json")) rfl
    rw [hrun, hending [] rfl hlists]
    rfl
  · rcases (run_ends Files.Node.empty.view [] .empty ⟨"", "", 0⟩ (.ofNetwork .unreachable)).2
        ⟨Config.default, Client.plain, Check.defaults⟩ rfl with
      ⟨report, l', exit, -, h, -⟩ | ⟨-, -, reply, hr, -⟩
    · exact ⟨exit, _, l', h⟩
    · cases hr

end CommandLine

end Liveness
