import Liveness.Proofs.Check.Verdict

/-! Runs over a script. Each run takes one reply and fetches its target once, so what it
reports is told by the reply in its place, whatever has been run before. -/

namespace Liveness.Probe

open Check

namespace Script

/-- What the next fetch comes to. -/
def reply (s : Script) : Outcome := s.replies.head?.getD (.error ended)

/-- The script after a fetch. -/
def next (s : Script) (url : Url) : Script := ⟨s.replies.tail, s.fetched ++ [url]⟩

/-- What the fetch after `i` others comes to. -/
def replyAt (s : Script) (i : Nat) : Outcome := s.replies[i]?.getD (.error ended)

theorem fetch_apply (s : Script) (url : Url) : fetch url s = (s.reply, s.next url) := by
  obtain ⟨replies, fetched⟩ := s
  cases replies <;> rfl

theorem replyAt_zero (s : Script) : s.replyAt 0 = s.reply := by
  rw [replyAt, reply, List.head?_eq_getElem?]

theorem replyAt_next (s : Script) (url : Url) (i : Nat) :
    (s.next url).replyAt i = s.replyAt (i + 1) := by
  rw [replyAt, next, List.getElem?_tail, replyAt]

end Script

/-- A report as its reply makes it: it is about the target, and has either the status of a
response with what the checks make of that, or the reason of a failure, for which every
check fails. -/
structure Records (target : Url) (checks : List Check) (reply : Outcome) (r : Report) :
    Prop where
  about : r.target = target
  statusOrError : r.status.isSome = !r.error.isSome
  response : ∀ resp, reply = .ok resp →
    r.status = some resp.status ∧ r.error = none ∧ r.checks = evaluate (some resp) checks
  failure : ∀ f, reply = .error f →
    r.status = none ∧ r.error = some ("Connection error: " ++ f.reason) ∧
      ∀ c ∈ checks, r.checks.get? c.name = some false
  names : ∀ n, r.checks.get? n ≠ none ↔ ∃ c ∈ checks, c.name = n
  passed : r.passed = true → r.status ≠ none

theorem get?_evaluate_ne_none_iff (resp : Option Response) (checks : List Check) (n : String) :
    (evaluate resp checks).get? n ≠ none ↔ ∃ c ∈ checks, c.name = n := by
  have hkeys : (checks.map fun c => (c.name, resp.any c.holds)).reverse.lookup n = none ↔
      ∀ c ∈ checks, c.name ≠ n := by
    simp [List.lookup_eq_none_iff, ne_comm]
  rw [evaluate, Results.get?_ofList, ne_eq, hkeys]
  simp

/-- Without a response every check is there and has failed. -/
theorem get?_evaluate_none {checks : List Check} {c : Check} (hc : c ∈ checks) :
    (evaluate none checks).get? c.name = some false := by
  cases h : (evaluate none checks).get? c.name with
  | none => exact absurd h ((get?_evaluate_ne_none_iff none checks c.name).2 ⟨c, hc, rfl⟩)
  | some b =>
    obtain ⟨d, -, -, hb⟩ := (get?_evaluate_iff none checks c.name b).1 h
    rw [← hb]
    rfl

theorem snd_of_mem_evaluate_none {checks : List Check} {e : Entry}
    (he : e ∈ (evaluate none checks).entries) : e.2 = false := by
  obtain ⟨_, -, -, hb⟩ :=
    (get?_evaluate_iff none checks e.1 e.2).1 ((Results.get?_eq_some_iff ..).2 he)
  exact hb.symm

theorem records_ofOutcome (stamp : Stamp) (target : Url) (checks : List Check)
    (reply : Outcome) :
    Records target checks reply (Report.ofOutcome stamp target checks reply) := by
  cases reply with
  | ok resp =>
    constructor
    · rfl
    · rfl
    · rintro _ ⟨⟩
      exact ⟨rfl, rfl, rfl⟩
    · rintro _ ⟨⟩
    · exact get?_evaluate_ne_none_iff (some resp) checks
    · exact fun _ => Option.some_ne_none _
  | error f =>
    constructor
    · rfl
    · rfl
    · rintro _ ⟨⟩
    · rintro _ ⟨⟩
      exact ⟨rfl, rfl, fun c hc => get?_evaluate_none hc⟩
    · exact get?_evaluate_ne_none_iff none checks
    · intro hp
      rw [ofOutcome_passed] at hp
      cases hp

theorem execute_script (stamp : Stamp) (target : Url) (checks : List Check) (s : Script) :
    (execute Script.fetch (pure (pure stamp)) target checks).run s =
      (Report.ofOutcome stamp target checks s.reply, s.next target) := by
  change (let x := Script.fetch target s; (Report.ofOutcome stamp target checks x.1, x.2)) = _
  rw [Script.fetch_apply]

/-- One run after another, each with a stamp of its own. -/
def executeAll (stamps : List Stamp) (target : Url) (checks : List Check) :
    StateM Script (List Report) :=
  stamps.mapM fun stamp => execute Script.fetch (pure (pure stamp)) target checks

theorem executeAll_cons (stamp : Stamp) (stamps : List Stamp) (target : Url)
    (checks : List Check) (s : Script) :
    (executeAll (stamp :: stamps) target checks).run s =
      (Report.ofOutcome stamp target checks s.reply ::
        ((executeAll stamps target checks).run (s.next target)).1,
        ((executeAll stamps target checks).run (s.next target)).2) := by
  rw [executeAll, List.mapM_cons]
  change (let x := (execute Script.fetch (pure (pure stamp)) target checks).run s
    let y := (executeAll stamps target checks).run x.2
    (x.1 :: y.1, y.2)) = _
  rw [execute_script]

/-- What some runs leave of a script. -/
theorem executeAll_snd (stamps : List Stamp) (target : Url) (checks : List Check) (s : Script) :
    ((executeAll stamps target checks).run s).2 =
      ⟨s.replies.drop stamps.length, s.fetched ++ List.replicate stamps.length target⟩ := by
  induction stamps generalizing s with
  | nil =>
    change s = _
    simp
  | cons stamp stamps ih =>
    rw [executeAll_cons, ih, Script.next, List.drop_tail, List.append_assoc, List.length_cons,
      List.replicate_succ, List.singleton_append]

/-- The report of a run is told by the reply in its place. -/
theorem getElem?_executeAll (stamps : List Stamp) (target : Url) (checks : List Check)
    (s : Script) (i : Nat) :
    ((executeAll stamps target checks).run s).1[i]? =
      stamps[i]?.map fun stamp => Report.ofOutcome stamp target checks (s.replyAt i) := by
  induction stamps generalizing s i with
  | nil => rfl
  | cons stamp stamps ih =>
    rw [executeAll_cons]
    cases i with
    | zero => rw [List.getElem?_cons_zero, List.getElem?_cons_zero, Script.replyAt_zero]; rfl
    | succ i => rw [List.getElem?_cons_succ, List.getElem?_cons_succ, ih, Script.replyAt_next]

theorem run_script (target : Url) (s : Script) :
    (run Script.fetch target).run s =
      ((Report.ofOutcome ⟨"", "", 0⟩ target Check.defaults s.reply).checks, s.next target) := by
  change (let x := (execute Script.fetch (pure (pure ⟨"", "", 0⟩)) target Check.defaults).run s
    (x.1.checks, x.2)) = _
  rw [execute_script]

theorem checks_ofOutcome (stamp stamp' : Stamp) (target : Url) (checks : List Check)
    (o : Outcome) : (Report.ofOutcome stamp target checks o).checks =
      (Report.ofOutcome stamp' target checks o).checks := by
  cases o <;> rfl

/-- The one check of every probe holds of a response with status 200, and of nothing else. -/
theorem get?_defaults_iff (stamp : Stamp) (target : Url) (o : Outcome) :
    (Report.ofOutcome stamp target Check.defaults o).checks.get? "is status 200" = some true ↔
      ∃ resp, o = .ok resp ∧ resp.status = 200 := by
  cases o with
  | ok resp =>
    have h : (evaluate (some resp) Check.defaults).get? "is status 200" =
        some (resp.status == 200) := rfl
    simp [Report.ofOutcome, h]
  | error f =>
    have h : (evaluate none Check.defaults).get? "is status 200" = some false := rfl
    simp [Report.ofOutcome, h]

/-- The law of reports over any number of runs. Each run fetches the target once and nothing
else, and its report is made of the reply in its place alone, in which what the reply says
is recorded; a script that has ended fails. A run that gives only the results of the usual
checks gives those of the report, and they hold for status 200. -/
theorem reports_of_replies (stamps : List Stamp) (target : Url) (checks : List Check)
    (s : Script) :
    (∃ reports, (executeAll stamps target checks).run s =
        (reports, ⟨s.replies.drop stamps.length,
          s.fetched ++ List.replicate stamps.length target⟩) ∧
      reports.length = stamps.length ∧
      ∀ (i : Nat) (r : Report), reports[i]? = some r →
        stamps[i]? = some r.stamp ∧
          r = Report.ofOutcome r.stamp target checks (s.replyAt i) ∧
          Records target checks (s.replyAt i) r) ∧
    (∀ stamp, (run Script.fetch target).run s =
      (((execute Script.fetch (pure (pure stamp)) target Check.defaults).run s).1.checks,
        ((execute Script.fetch (pure (pure stamp)) target Check.defaults).run s).2)) ∧
    (((run Script.fetch target).run s).1.get? "is status 200" = some true ↔
      ∃ resp, s.replyAt 0 = .ok resp ∧ resp.status = 200) := by
  refine ⟨⟨_, Prod.ext rfl (executeAll_snd stamps target checks s), ?_, fun i r h => ?_⟩,
    fun stamp => ?_, ?_⟩
  · have hi : ∀ i : Nat,
        ((executeAll stamps target checks).run s).1[i]? = none ↔ stamps[i]? = none := by
      intro i
      rw [getElem?_executeAll, Option.map_eq_none_iff]
    simp only [List.getElem?_eq_none_iff] at hi
    exact Nat.le_antisymm ((hi _).2 (Nat.le_refl _)) ((hi _).1 (Nat.le_refl _))
  · rw [getElem?_executeAll, Option.map_eq_some_iff] at h
    obtain ⟨stamp, hs, rfl⟩ := h
    have hstamp : (Report.ofOutcome stamp target checks (s.replyAt i)).stamp = stamp := by
      cases s.replyAt i <;> rfl
    exact ⟨hs.trans (congrArg some hstamp.symm), by rw [hstamp], records_ofOutcome _ _ _ _⟩
  · rw [run_script, execute_script, checks_ofOutcome]
  · rw [run_script, get?_defaults_iff, Script.replyAt_zero]

/-- A response, a refusal, and a run for which no reply is left. -/
theorem reports_of_replies_refused :
    let s : Script := ⟨[.ok ⟨200, [], 0⟩, .error ⟨"refused"⟩], []⟩
    let stamp : Stamp := ⟨"", "", 0⟩
    ∃ reports r, (executeAll [stamp, stamp, stamp] Config.defaultTarget Check.defaults).run s =
        (reports, ⟨[], [Config.defaultTarget, Config.defaultTarget, Config.defaultTarget]⟩) ∧
      reports[1]? = some r ∧ r.status = none ∧ r.error = some "Connection error: refused" := by
  intro s stamp
  obtain ⟨reports, hrun, hlen, hall⟩ :=
    (reports_of_replies [stamp, stamp, stamp] Config.defaultTarget Check.defaults s).1
  have hlt : 1 < reports.length := hlen ▸ Nat.lt_add_one_of_le (by decide)
  have h1 : reports[1]? = some reports[1] := List.getElem?_eq_getElem hlt
  obtain ⟨-, -, hr⟩ := hall 1 _ h1
  obtain ⟨hstatus, herror, -⟩ := hr.failure ⟨"refused"⟩ rfl
  exact ⟨reports, reports[1], hrun, h1, hstatus, herror⟩

end Liveness.Probe
