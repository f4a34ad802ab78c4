import Liveness.Proofs.Config.RoundTrip
import Liveness.Proofs.Yaml.Nodes

/-! The two formats of a configuration file. The JSON text of a configuration is YAML as well,
and means the same there: strings are quoted and stay what they are, whatever they look like,
and what is not quoted is a number or `null`. -/

namespace Liveness.Config

open Liveness.Yaml (Document Node Item IsShared IsPortable items memberItems)
open Liveness.Json (quote)

variable {c : Config} {d : Draft} {f : Field}

/-- What the text of a configuration has in a field. -/
def written (c : Config) : Field → Json.Value
  | .targetUrl => .string c.targetUrl.toText
  | .timeoutSecs => .ofOption (fun n => .number n.toNat) c.timeoutSecs
  | .userAgent => .ofOption .string c.userAgent

theorem toJson_eq (c : Config) : c.toJson = .object (fields.map fun f => (f.name, c.written f)) :=
  rfl

theorem isPortable_of_isVisible {x : Char} (h : Url.Percent.isVisible x = true) :
    IsPortable x := by
  simp only [Url.Percent.isVisible, Bool.and_eq_true, decide_eq_true_eq] at h
  exact Yaml.isPortable_of_visible h.1 h.2

theorem isShared_written (hu : c.targetUrl.IsRead)
    (hagent : ∀ s, c.userAgent = some s → ∀ x ∈ s.toList, IsPortable x) (f : Field) :
    IsShared (c.written f) := by
  cases f with
  | targetUrl =>
    refine .string fun x hx => isPortable_of_isVisible (Url.isVisible_of_mem_toChars hu ?_)
    rwa [Url.toText, String.toList_ofList] at hx
  | timeoutSecs =>
    rw [written]
    cases c.timeoutSecs with
    | none => exact .null
    | some n => exact .number _
  | userAgent =>
    rw [written]
    cases ha : c.userAgent with
    | none => exact .null
    | some s => exact .string (hagent s ha)

theorem isShared_toJson (hu : c.targetUrl.IsRead)
    (hagent : ∀ s, c.userAgent = some s → ∀ x ∈ s.toList, IsPortable x) : IsShared c.toJson := by
  have hportable : ∀ f : Field, ∀ x ∈ f.name.toList, IsPortable x := by
    intro f
    have key : f.name.toList.all (fun x => decide (IsPortable x)) = true := by
      cases f <;> decide +kernel
    simpa using key
  have hlength : ∀ f : Field, (quote f.name).length ≤ 1024 := by
    intro f
    cases f <;> decide +kernel
  rw [toJson_eq]
  exact .object (List.forall_mem_map.2 fun f _ => hportable f)
    (List.forall_mem_map.2 fun f _ => hlength f)
    (List.forall_mem_map.2 fun f _ => isShared_written hu hagent f)

namespace OfYaml

variable {doc : Document} {start : Yaml.Mark} {n key value : Node} {ns : List Node} {p : Place}
variable {tag : Option Text.Bytes} {text : List Char} {style : Yaml.Style}

theorem resolve_of_scalar (h : n.item = .scalar tag text style) : doc.resolve n = n := by
  rw [Document.resolve, h]

theorem readText_of_scalar (expected : String) (member : Option String)
    (h : n.item = .scalar tag text style) :
    readText expected member n = .ok (String.ofList text) := by
  rw [readText, h]

section

variable {α : Type} {read : Place → Node → Except Error α}

theorem readOptional_null (h : n.item = .scalar none ['n', 'u', 'l', 'l'] .plain) :
    readOptional read p n = .ok none := by
  rw [readOptional, isAbsent, h]
  rfl

theorem readOptional_decimal {k : Nat} (h : n.item = .scalar none (Json.decimal k) .plain) :
    readOptional read p n = (read p n).map some := by
  have hne : Json.decimal k ≠ [] := Nat.toDigits_ne_nil
  rw [readOptional, isAbsent, h]
  dsimp only
  rw [Yaml.isNull_decimal, decide_eq_false hne]
  rfl

theorem readOptional_double (h : n.item = .scalar none text .double) :
    readOptional read p n = (read p n).map some := by
  rw [readOptional, isAbsent, h]
  rfl

end

theorem readSeconds_decimal {k : UInt64}
    (h : n.item = .scalar none (Json.decimal k.toNat) .plain) : readSeconds p n = .ok k := by
  rw [readSeconds, h]
  dsimp only
  rw [if_pos (.inl rfl), Yaml.word?_decimal]

theorem readUrl_of_scalar (h : n.item = .scalar tag text style) :
    readUrl p n = (Url.parse (String.ofList text)).mapError fun cause =>
      .unsuitable (.invalidUrl cause (String.ofList text)) n.mark (some p.member) := by
  rw [readUrl, readText_of_scalar _ _ h]
  rfl

/-- What a configuration has in a field is read back from its node. -/
theorem readField_written (hn : items (c.written f) = [n.item])
    (hu : Url.parse c.targetUrl.toText = .ok c.targetUrl) :
    readField d f p n = .ok (d.set f (c.get f)) := by
  cases f with
  | targetUrl =>
    have hitem : n.item = .scalar none c.targetUrl.toText.toList .double :=
      (List.singleton_inj.1 hn).symm
    rw [readField, readUrl_of_scalar hitem, String.ofList_toList, hu]
    rfl
  | timeoutSecs =>
    rw [readField, get]
    rw [written] at hn
    cases ht : c.timeoutSecs with
    | none =>
      rw [ht] at hn
      rw [readOptional_null (List.singleton_inj.1 hn).symm]
      rfl
    | some k =>
      rw [ht] at hn
      have hitem : n.item = .scalar none (Json.decimal k.toNat) .plain :=
        (List.singleton_inj.1 hn).symm
      rw [readOptional_decimal hitem, readSeconds_decimal hitem]
      rfl
  | userAgent =>
    rw [readField, get]
    rw [written] at hn
    cases ha : c.userAgent with
    | none =>
      rw [ha] at hn
      rw [readOptional_null (List.singleton_inj.1 hn).symm]
      rfl
    | some s =>
      rw [ha] at hn
      have hitem : n.item = .scalar none s.toList .double := (List.singleton_inj.1 hn).symm
      rw [readOptional_double hitem, readText_of_scalar _ _ hitem, String.ofList_toList]
      rfl

/-- Reading a member whose key is the name of a field that is still missing. -/
theorem readMembers_field (hkey : key.item = .scalar none f.name.toList .double)
    (hvalue : value.item = .scalar tag text style) (hd : d.get f = none) :
    readMembers doc start d (key :: value :: ns) =
      (readField d f ⟨f.name, start⟩ value).bind fun d => readMembers doc start d ns := by
  have hname : memberName key = f.name := by
    rw [memberName, hkey]
    exact String.ofList_toList
  have hend : key.item ≠ .mappingEnd := by simp [hkey]
  rw [readMembers, if_neg hend, resolve_of_scalar hkey, readText_of_scalar _ _ hkey,
    String.ofList_toList]
  dsimp only
  rw [Field.ofName?_name]
  dsimp only
  rw [Draft.has_eq, hd, hname, resolve_of_scalar hvalue]
  cases readField d f ⟨f.name, start⟩ value <;> rfl

/-- The nodes of a field and the fields behind it. -/
theorem members_of_map_item {fs : List Field}
    (h : ns.map Node.item = memberItems ((f :: fs).map fun f => (f.name, c.written f))) :
    ∃ key value rest, ns = key :: value :: rest ∧
      key.item = .scalar none f.name.toList .double ∧ items (c.written f) = [value.item] ∧
      (∃ text style, value.item = .scalar none text style) ∧
      rest.map Node.item = memberItems (fs.map fun f => (f.name, c.written f)) := by
  have hwritten : ∃ text style, items (c.written f) = [.scalar none text style] := by
    cases f with
    | targetUrl => exact ⟨_, _, rfl⟩
    | timeoutSecs => rw [written]; cases c.timeoutSecs <;> exact ⟨_, _, rfl⟩
    | userAgent => rw [written]; cases c.userAgent <;> exact ⟨_, _, rfl⟩
  obtain ⟨text, style, hitems⟩ := hwritten
  rw [List.map_cons, memberItems, hitems, List.singleton_append] at h
  obtain ⟨key, ns, rfl, hkey, h⟩ := List.map_eq_cons_iff.1 h
  obtain ⟨value, rest, rfl, hvalue, hrest⟩ := List.map_eq_cons_iff.1 h
  exact ⟨key, value, rest, rfl, hkey, hvalue ▸ hitems, ⟨text, style, hvalue⟩, hrest⟩

theorem readMembers_written (doc : Document) (start : Yaml.Mark) {fs : List Field}
    (hfs : fs.Nodup) (hd : ∀ f ∈ fs, d.get f = none)
    (hu : Url.parse c.targetUrl.toText = .ok c.targetUrl)
    (hns : ns.map Node.item = memberItems (fs.map fun f => (f.name, c.written f))) :
    readMembers doc start d ns = .ok (fs.foldl (fun d f => d.set f (c.get f)) d) := by
  induction fs generalizing d ns with
  | nil =>
    obtain ⟨n, rfl, hn⟩ := List.map_eq_singleton_iff.1 hns
    rw [readMembers, if_pos hn, List.foldl_nil]
  | cons f fs ih =>
    obtain ⟨hf, hfs⟩ := List.nodup_cons.1 hfs
    obtain ⟨hdf, hdfs⟩ := List.forall_mem_cons.1 hd
    obtain ⟨key, value, rest, rfl, hkey, hitems, ⟨text, style, hvalue⟩, hrest⟩ :=
      members_of_map_item hns
    rw [readMembers_field hkey hvalue hdf, readField_written hitems hu, List.foldl_cons]
    refine ih hfs (fun g hg => ?_) hrest
    have hne : g ≠ f := by
      rintro rfl
      exact hf hg
    rw [Draft.get_set_of_ne hne, hdfs g hg]

/-- The first member of the text of a configuration is read first. -/
theorem readMembers_of_error (doc : Document) (start : Yaml.Mark) {cause : Url.Error}
    (hu : Url.parse c.targetUrl.toText = .error cause)
    (hns : ns.map Node.item = memberItems (fields.map fun f => (f.name, c.written f))) :
    ∃ mark, readMembers doc start .empty ns = .error
      (.unsuitable (.invalidUrl cause c.targetUrl.toText) mark (some Field.targetUrl.name)) := by
  obtain ⟨key, value, rest, rfl, hkey, hitems, -, -⟩ := members_of_map_item hns
  have hvalue : value.item = .scalar none c.targetUrl.toText.toList .double :=
    (List.singleton_inj.1 hitems).symm
  refine ⟨value.mark, ?_⟩
  rw [readMembers_field hkey hvalue rfl, readField, readUrl_of_scalar hvalue, String.ofList_toList,
    hu]
  rfl

end OfYaml

theorem ofYaml_compact (hc : IsShared c.toJson) :
    ∃ doc start ns, ns.map Node.item = memberItems (fields.map fun f => (f.name, c.written f)) ∧
      Draft.ofYaml c.toJson.compact = OfYaml.readMembers doc start .empty ns := by
  obtain ⟨nodes, hnodes, hdocument⟩ := Yaml.document_compact hc
  rw [toJson_eq, items] at hnodes
  obtain ⟨n, ns, rfl, hn, hns⟩ := List.map_eq_cons_iff.1 hnodes
  refine ⟨⟨n :: ns, .none, none, true⟩, n.mark, ns, hns, ?_⟩
  rw [Draft.ofYaml, hdocument]
  dsimp only
  rw [OfYaml.readDraft]
  dsimp only
  rw [hn]
  dsimp only
  cases OfYaml.readMembers ⟨n :: ns, .none, none, true⟩ n.mark .empty ns <;> rfl

theorem finish_written (c : Config) :
    (fields.foldl (fun d f => d.set f (c.get f)) Draft.empty).finish = c := rfl

/-- A configuration that is fit for use is read back from its text as YAML if its URL is. -/
theorem parse_yaml_compact (hc : c.Fit) (hshared : IsShared c.toJson)
    (hu : Url.parse c.targetUrl.toText = .ok c.targetUrl) :
    parse .yaml c.toJson.compact = .ok c := by
  obtain ⟨doc, start, ns, hns, hyaml⟩ := ofYaml_compact hshared
  have hread := OfYaml.readMembers_written doc start (by decide : fields.Nodup)
    (fun f _ => Draft.get_empty f) hu hns
  refine parse_eq_ok_iff.2 ⟨_, ?_, finish_written c, hc⟩
  rw [Draft.read, hyaml, hread]
  rfl

theorem parse_yaml_compact_of_error {cause : Url.Error} (hshared : IsShared c.toJson)
    (hu : Url.parse c.targetUrl.toText = .error cause) :
    ∃ mark, parse .yaml c.toJson.compact = .error (.yaml
      (.unsuitable (.invalidUrl cause c.targetUrl.toText) mark (some Field.targetUrl.name))) := by
  obtain ⟨doc, start, ns, hns, hyaml⟩ := ofYaml_compact hshared
  obtain ⟨mark, hread⟩ := OfYaml.readMembers_of_error doc start hu hns
  refine ⟨mark, ?_⟩
  rw [parse_eq, Draft.read, hyaml, hread]
  rfl

/-- Both formats read the text of a configuration alike, as the configuration itself, unless its
URL is not read back; then both refuse the URL. -/
theorem formats_agree (htarget : IsTarget c.targetUrl) (hvalid : c.validate = .ok ())
    (hagent : ∀ s, c.userAgent = some s → ∀ x ∈ s.toList, IsPortable x) :
    (c.targetUrl.IsReadable →
      parse .yaml c.toJson.compact = .ok c ∧ parse .json c.toJson.compact = .ok c) ∧
    (¬ c.targetUrl.IsReadable →
      (∃ mark, parse .yaml c.toJson.compact = .error (.yaml (.unsuitable
        (.invalidUrl .invalidInternationalName c.targetUrl.toText) mark
        (some Field.targetUrl.name)))) ∧
      ∃ e, parse .json c.toJson.compact = .error (.json c.toJson.compact e) ∧
        e.cause = .invalidUrl .invalidInternationalName c.targetUrl.toText) := by
  have hfit := validate_eq_ok_iff.1 hvalid
  have hread := isRead_of_isTarget htarget hfit.web
  have hshared := isShared_toJson hread hagent
  refine ⟨fun hr => ?_, fun hr => ?_⟩
  · have hu := Url.parse_toText_of_readable hread hr
    exact ⟨parse_yaml_compact hfit hshared hu, parse_compact hfit hu⟩
  · have hu := Url.parse_toText_of_not_readable hread hr
    exact ⟨parse_yaml_compact_of_error hshared hu, parse_compact_of_error hu⟩

/-- A user agent that is no string to YAML unless it is quoted. -/
def oddAgent : String := " null: [\x7b\"a\\\t\x7d], # \u0000\n'1'\r\u001F %\u00A0 "

/-- Odd texts are read back, as is the greatest timeout, and a URL that names 700 ideographs is
refused. -/
theorem formats_agree_odd :
    let c : Config := ⟨defaultTarget, some 18446744073709551615, some oddAgent⟩
    let long : Config := ⟨Url.longUrl, none, none⟩
    IsTarget c.targetUrl ∧ c.validate = .ok () ∧ (∀ x ∈ oddAgent.toList, IsPortable x) ∧
      c.targetUrl.IsReadable ∧
      parse .yaml c.toJson.compact = .ok c ∧ parse .json c.toJson.compact = .ok c ∧
      ∃ mark, parse .yaml long.toJson.compact = .error (.yaml (.unsuitable
        (.invalidUrl .invalidInternationalName Url.longUrl.toText) mark
        (some Field.targetUrl.name))) := by
  intro c long
  have hodd : (oddAgent.toList.all fun x => decide (IsPortable x)) = true := by decide +kernel
  have hportable : ∀ x ∈ oddAgent.toList, IsPortable x := by simpa using hodd
  have hagent : ∀ s, c.userAgent = some s → ∀ x ∈ s.toList, IsPortable x := by
    rintro s ⟨⟩
    exact hportable
  have hnone : ∀ s, long.userAgent = some s → ∀ x ∈ s.toList, IsPortable x := nofun
  have hvalid : c.validate = .ok () := rfl
  obtain ⟨hyaml, hjson⟩ := (formats_agree (c := c) isTarget_default hvalid hagent).1
    isReadable_defaultTarget
  exact ⟨isTarget_default, hvalid, hportable, isReadable_defaultTarget, hyaml, hjson,
    ((formats_agree (c := long) isTarget_longUrl (validate_of_fit fit_longUrl) hnone).2
      Url.not_isReadable_longUrl).1⟩

/-- A configuration whose URL names 700 ideographs is fit for use, and neither format reads it
back from its text. -/
theorem formats_refuse_long_name :
    ∃ c : Config, IsTarget c.targetUrl ∧ c.validate = .ok () ∧ c.userAgent = none ∧
      parse .yaml c.toJson.compact ≠ .ok c ∧ parse .json c.toJson.compact ≠ .ok c := by
  have hshared : IsShared (Config.toJson ⟨Url.longUrl, none, none⟩) :=
    isShared_toJson (isRead_of_isTarget isTarget_longUrl fit_longUrl.web) nofun
  obtain ⟨mark, hyaml⟩ := parse_yaml_compact_of_error hshared parse_toText_longUrl
  obtain ⟨e, hjson, -⟩ := parse_compact_of_error (c := ⟨Url.longUrl, none, none⟩)
    parse_toText_longUrl
  refine ⟨⟨Url.longUrl, none, none⟩, isTarget_longUrl, validate_of_fit fit_longUrl, rfl, ?_, ?_⟩
  · simp [hyaml]
  · simp [hjson]

end Liveness.Config
