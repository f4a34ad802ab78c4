import Liveness.Proofs.Config.Acceptance
import Liveness.Proofs.Json.Layouts

/-! Reading the JSON text of a configuration. Its timeout and its user agent are read as they
are; its URL is read again from its own text. -/

namespace Liveness.Config

open Liveness.Json (Blanks IsObject compact escape quote)

/-- The members of the text of a configuration. -/
def members (c : Config) : List (String × List Char) :=
  [(Field.targetUrl.name, quote c.targetUrl.toText),
    (Field.timeoutSecs.name, compact (.ofOption (fun n => .number n.toNat) c.timeoutSecs)),
    (Field.userAgent.name, compact (.ofOption .string c.userAgent))]

theorem compact_toJson (c : Config) : compact c.toJson =
    '{' :: '"' :: (Field.targetUrl.name.toList.flatMap escape ++ '"' :: ':' ::
      (quote c.targetUrl.toText ++ ',' ::
      '"' :: (Field.timeoutSecs.name.toList.flatMap escape ++ '"' :: ':' ::
        (compact (.ofOption (fun n => .number n.toNat) c.timeoutSecs) ++ ',' ::
        '"' :: (Field.userAgent.name.toList.flatMap escape ++ '"' :: ':' ::
          (compact (.ofOption .string c.userAgent) ++ ['}'])))))) := by
  simp [toJson, compact, Json.compactMembers, quote, Field.name]

theorem means_timeout (t : Option UInt64) :
    Means .timeoutSecs (compact (.ofOption (fun n => .number n.toNat) t)) t := by
  cases t with
  | none => exact .noTimeout
  | some n => exact .timeout n

theorem means_agent (a : Option String) :
    Means .userAgent (compact (.ofOption .string a)) a := by
  cases a with
  | none => exact .noAgent
  | some s => exact .agent (Json.isText_quote s)

theorem isObject_compact (c : Config) : IsObject c.members (compact c.toJson) :=
  Json.isObject_compact [(Field.targetUrl.name, .string c.targetUrl.toText),
    (Field.timeoutSecs.name, .ofOption (fun n : UInt64 => .number n.toNat) c.timeoutSecs),
    (Field.userAgent.name, .ofOption .string c.userAgent)]

/-- A configuration is told of by its own text if its URL is read back from its text. -/
theorem tells_members {c : Config} (hc : c.Fit)
    (hu : Url.parse c.targetUrl.toText = .ok c.targetUrl) : Tells c.members c := by
  refine ⟨fun f => ?_, hc.web, hc.time⟩
  cases f with
  | targetUrl => exact .given (.target (Json.isText_quote _) hu)
  | timeoutSecs => exact .given (means_timeout c.timeoutSecs)
  | userAgent => exact .given (means_agent c.userAgent)

/-- A configuration that is fit for use is read back from its text if its URL is. -/
theorem parse_compact {c : Config} (hc : c.Fit)
    (hu : Url.parse c.targetUrl.toText = .ok c.targetUrl) :
    parse .json c.toJson.compact = .ok c := by
  have hobject : IsObject c.members c.toJson.compact.toList := by
    rw [Json.Value.compact, String.toList_ofList]
    exact isObject_compact c
  exact (parse_object_iff hobject).2 (tells_members hc hu)

namespace OfJson

theorem readUrl_quote_of_error {s : String} {cause : Url.Error} (h : Url.parse s = .error cause)
    (rest : List Char) :
    readUrl (quote s ++ rest) = .error (.before (.invalidUrl cause s) rest) := by
  have htext : readText expectedUrl (quote s ++ rest) = .ok (s, rest) :=
    readText_eq_ok_iff.2 ⟨[], _, by simp [quote], Blanks.nil, Json.spells_escape s.toList⟩
  rw [readUrl, htext]
  dsimp only
  rw [h]

/-- The first member of the text of a configuration is read first. -/
theorem readDraft_compact_of_error {c : Config} {cause : Url.Error}
    (hu : Url.parse c.targetUrl.toText = .error cause) :
    ∃ e, readDraft (compact c.toJson) = .error e ∧
      e.cause = .invalidUrl cause c.targetUrl.toText := by
  rw [compact_toJson]
  change ∃ e, readMembers .empty _ = .error e ∧ _
  rw [readMembers_eq, readMember, Json.readString_of_spells (Json.spells_escape _)]
  dsimp only
  rw [String.ofList_toList, Field.ofName?_name]
  dsimp only
  rw [Draft.has_eq, Draft.get_empty]
  change ∃ e, Except.bind (readField .empty .targetUrl _) _ = .error e ∧ _
  rw [readField, readUrl_quote_of_error hu]
  exact ⟨_, rfl, rfl⟩

end OfJson

theorem parse_compact_of_error {c : Config} {cause : Url.Error}
    (hu : Url.parse c.targetUrl.toText = .error cause) :
    ∃ e, parse .json c.toJson.compact = .error (.json c.toJson.compact e) ∧
      e.cause = .invalidUrl cause c.targetUrl.toText := by
  obtain ⟨e, he, hcause⟩ := OfJson.readDraft_compact_of_error hu
  refine ⟨e, ?_, hcause⟩
  rw [parse_eq, Draft.read, Draft.ofJson, Json.Value.compact, String.toList_ofList, he]
  rfl

end Liveness.Config
