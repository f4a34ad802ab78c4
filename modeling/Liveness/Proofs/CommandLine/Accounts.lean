import Liveness.Proofs.Check.Results
import Liveness.Proofs.CommandLine.Ending
import Liveness.Proofs.Json.Layouts

/-! What a report tells, read back from the texts that it is written as. The fields are found
under their names, and whatever the names of checks and the error hold, they stay what they
are. -/

namespace Liveness

namespace Json.Value

def text? : Value → Option String
  | .string s => some s
  | _ => none

def flag? : Value → Option Bool
  | .bool b => some b
  | _ => none

def number? : Value → Option Nat
  | .number n => some n
  | _ => none

/-- A value that may be absent. -/
def optional? {α : Type} (read : Value → Option α) : Value → Option (Option α)
  | .null => some none
  | v => (read v).map some

/-- The members of an object, each with what is read from it. -/
def members? {α : Type} (read : Value → Option α) : Value → Option (List (String × α))
  | .object members => members.mapM fun m => (read m.2).map fun x => (m.1, x)
  | _ => none

/-- What is read from the member of a name. -/
def field? {α : Type} (read : Value → Option α) (v : Value) (name : String) : Option α :=
  (v.member? name).bind read

/-- The names of the members of an object, in their order. -/
def names : Value → List String
  | .object members => members.map (·.1)
  | _ => []

end Json.Value

namespace Probe

open Json (IsDocument Value)

/-- What a report tells. -/
structure Account where
  stamp : Stamp
  target : String
  status : Option UInt16
  error : Option String
  checks : List Check.Entry

def Report.account (r : Report) : Account :=
  ⟨r.stamp, r.target.toText, r.status, r.error, r.checks.entries⟩

/-- A status is a number of sixteen bits. -/
def status? (v : Value) : Option UInt16 :=
  v.number?.bind fun n => if n < UInt16.size then some n.toUInt16 else none

/-- A time is a number of sixty-four bits. -/
def time? (v : Value) : Option UInt64 :=
  v.number?.bind fun n => if n < UInt64.size then some n.toUInt64 else none

/-- Reads the fields of a report by their names. -/
def Account.ofJson? (v : Value) : Option Account := do
  let runId ← v.field? Value.text? "run_id"
  let target ← v.field? Value.text? "target"
  let startedAt ← v.field? Value.text? "started_at"
  let elapsedMs ← v.field? time? "response_time_ms"
  let status ← v.field? (Value.optional? status?) "status"
  let error ← v.field? (Value.optional? Value.text?) "error"
  let checks ← v.field? (Value.members? Value.flag?) "checks"
  return ⟨⟨runId, startedAt, elapsedMs⟩, target, status, error, checks⟩

/-- The names of what a report tells, in the order in which it is written. -/
def fieldNames : List String :=
  ["run_id", "target", "started_at", "response_time_ms", "status", "error", "checks"]

/-- The texts of a report: without any space, with one member a line, and as it is printed. -/
inductive Report.WrittenAs (r : Report) : String → Prop
  | compact : WrittenAs r r.toJson.compact
  | pretty : WrittenAs r r.toJson.pretty
  | printed : WrittenAs r (CommandLine.printed r)

theorem status?_number (s : UInt16) : status? (.number s.toNat) = some s := by
  have hs : s.toNat < UInt16.size := s.toNat_lt
  simp [status?, Value.number?, hs]

theorem time_toJson (r : Report) :
    r.toJson.field? time? "response_time_ms" = some r.stamp.elapsedMs := by
  have ht : r.stamp.elapsedMs.toNat < UInt64.size := r.stamp.elapsedMs.toNat_lt
  change time? (.number r.stamp.elapsedMs.toNat) = _
  simp [time?, Value.number?, ht]

theorem status_toJson (r : Report) :
    r.toJson.field? (Value.optional? status?) "status" = some r.status := by
  change (Value.ofOption (fun s : UInt16 => .number s.toNat) r.status).optional? status? = _
  cases r.status with
  | none => rfl
  | some s => exact congrArg (Option.map some) (status?_number s)

theorem error_toJson (r : Report) :
    r.toJson.field? (Value.optional? Value.text?) "error" = some r.error := by
  change (Value.ofOption .string r.error).optional? Value.text? = _
  cases r.error <;> rfl

theorem checks_toJson (r : Report) :
    r.toJson.field? (Value.members? Value.flag?) "checks" = some r.checks.entries := by
  change (Value.object (r.checks.entries.map fun e => (e.1, .bool e.2))).members? Value.flag? = _
  rw [Value.members?, List.mapM_map]
  induction r.checks.entries with
  | nil => rfl
  | cons e es ih =>
    rw [List.mapM_cons, ih]
    rfl

theorem ofJson?_toJson (r : Report) : Account.ofJson? r.toJson = some r.account := by
  have hrunId : r.toJson.field? Value.text? "run_id" = some r.stamp.runId := rfl
  have htarget : r.toJson.field? Value.text? "target" = some r.target.toText := rfl
  have hstart : r.toJson.field? Value.text? "started_at" = some r.stamp.startedAt := rfl
  rw [Account.ofJson?, hrunId, htarget, hstart, time_toJson, status_toJson, error_toJson,
    checks_toJson]
  rfl

theorem toJson_eq_iff {r r' : Report} : r.toJson = r'.toJson ↔ r.account = r'.account := by
  constructor
  · intro h
    rw [← Option.some_inj, ← ofJson?_toJson r, h, ofJson?_toJson r']
  · intro h
    obtain ⟨hstamp, htarget, hstatus, herror, hchecks⟩ := Account.mk.inj h
    rw [Report.toJson, Report.toJson, hstamp, htarget, hstatus, herror, Check.Results.toJson,
      Check.Results.toJson, hchecks]

theorem isDocument_of_writtenAs {r : Report} {text : String} (h : r.WrittenAs text) :
    IsDocument r.toJson text := by
  cases h with
  | compact => exact Json.isDocument_compact _
  | pretty => exact Json.isDocument_pretty _
  | printed => exact Json.isDocument_pretty_line _

/-- The law of reading reports back. Each text of a report is a document that says one value,
and the same for all of them; its members are the fields, each once, and what is read under
their names is what the report tells, with no check named twice. So only reports that tell the
same have a text in common. -/
theorem report_reads_back :
    (∀ (r : Report) (text : String), r.WrittenAs text → ∀ v, IsDocument v text ↔ v = r.toJson) ∧
    (∀ r : Report, r.toJson.names = fieldNames ∧ fieldNames.Nodup ∧
      Account.ofJson? r.toJson = some r.account ∧ (r.account.checks.map (·.1)).Nodup) ∧
    ∀ r r' : Report, (∃ text, r.WrittenAs text ∧ r'.WrittenAs text) ↔ r.account = r'.account := by
  refine ⟨fun r text h v => Json.isDocument_iff (isDocument_of_writtenAs h), fun r =>
    ⟨rfl, by decide, ofJson?_toJson r, r.checks.nodup_names⟩, fun r r' => ⟨?_, fun h => ?_⟩⟩
  · rintro ⟨text, h, h'⟩
    exact toJson_eq_iff.1 ((isDocument_of_writtenAs h).unique (isDocument_of_writtenAs h'))
  · have hcompact : r'.WrittenAs r'.toJson.compact := .compact
    rw [← toJson_eq_iff.2 h] at hcompact
    exact ⟨_, .compact, hcompact⟩

/-- A report of an error. -/
def plainReport : Report := ⟨⟨"", "", 0⟩, Config.defaultTarget, none, some "x", .empty⟩

/-- A report whose only check has a name that would end its string and go on with other
members. -/
def forgedReport : Report :=
  ⟨⟨"", "", 0⟩, Config.defaultTarget, some 200, none,
    .ofList [("\":true\x7d,\"error\":\"x", false)]⟩

/-- The name of the check stays within its string, and the two reports have no text in common. -/
theorem report_reads_back_forged :
    (∀ v, IsDocument v (CommandLine.printed forgedReport) ↔ v = forgedReport.toJson) ∧
    Account.ofJson? forgedReport.toJson = some
      ⟨⟨"", "", 0⟩, "http://localhost:22313/", some 200, none,
        [("\":true\x7d,\"error\":\"x", false)]⟩ ∧
    ¬ ∃ text, plainReport.WrittenAs text ∧ forgedReport.WrittenAs text := by
  obtain ⟨hdocument, hfields, htexts⟩ := report_reads_back
  refine ⟨hdocument _ _ .printed, (hfields forgedReport).2.2.1, fun h => ?_⟩
  have herror := congrArg Account.error ((htexts _ _).1 h)
  cases herror

end Probe

end Liveness
