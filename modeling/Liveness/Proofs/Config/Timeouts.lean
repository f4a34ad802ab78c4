import Liveness.Proofs.Config.Variables
import Liveness.Proofs.Environment.Text
import Liveness.Proofs.Text.Characters

/-! What a timeout in the environment is read as: a numeral as its value, if that fits a word,
and a word for a switch as one or zero. Every other text is refused. -/

namespace Liveness.Config

open Liveness.Environment (Concerns IsBelow Names Setting Tree tree?)

/-- The decimal numerals of a number: digits, with a plus sign in front of them or none. Zeros
in front do not count. -/
inductive IsNumeral : Nat → List Char → Prop
  | plain {ds : List Char} : ds ≠ [] → (∀ d ∈ ds, d.isDigit = true) →
      IsNumeral (Nat.ofDigitChars 10 ds 0) ds
  | signed {ds : List Char} : ds ≠ [] → (∀ d ∈ ds, d.isDigit = true) →
      IsNumeral (Nat.ofDigitChars 10 ds 0) ('+' :: ds)

/-- The number that digits without a sign stand for, if there is a digit and the number is a
word. -/
def wordOfDigits? (ds : List Char) : Option UInt64 :=
  if ds = [] || !ds.all Char.isDigit then none
  else if Nat.ofDigitChars 10 ds 0 < UInt64.size then some (Nat.ofDigitChars 10 ds 0).toUInt64
  else none

theorem wordOf?_signed {s : String} {ds : List Char} (h : s.toList = '+' :: ds) :
    wordOf? s = wordOfDigits? ds := by
  rw [wordOf?, h]
  rfl

theorem wordOf?_plain {s : String} (h : s.toList.head? ≠ some '+') :
    wordOf? s = wordOfDigits? s.toList := by
  rw [wordOf?]
  split
  · next ds heq =>
    rw [heq] at h
    exact absurd rfl h
  · rfl

theorem wordOfDigits?_eq_some_iff {ds : List Char} {n : UInt64} :
    wordOfDigits? ds = some n ↔
      ds ≠ [] ∧ (∀ d ∈ ds, d.isDigit = true) ∧ Nat.ofDigitChars 10 ds 0 = n.toNat := by
  rw [wordOfDigits?]
  constructor
  · intro h
    split at h
    · cases h
    · next hds =>
      rw [Bool.or_eq_true, not_or, decide_eq_true_eq, Bool.not_eq_true', Bool.not_eq_false,
        List.all_eq_true] at hds
      split at h
      · next hlt =>
        cases h
        refine ⟨hds.1, hds.2, ?_⟩
        exact (UInt64.toNat_ofNat_of_lt' hlt).symm
      · cases h
  · rintro ⟨hne, hall, hvalue⟩
    have hdigits : ¬ (ds = [] || !ds.all Char.isDigit) = true := by
      rw [List.all_eq_true.2 hall]
      simpa using hne
    rw [if_neg hdigits, hvalue, if_pos n.toNat_lt]
    simp

/-- A text is read as a word exactly if it is a numeral of it. -/
theorem wordOf?_eq_some_iff {s : String} {n : UInt64} :
    wordOf? s = some n ↔ IsNumeral n.toNat s.toList := by
  constructor
  · intro h
    by_cases hsign : s.toList.head? = some '+'
    · obtain ⟨ds, hds⟩ := List.head?_eq_some_iff.1 hsign
      rw [wordOf?_signed hds] at h
      obtain ⟨hne, hall, hvalue⟩ := wordOfDigits?_eq_some_iff.1 h
      rw [hds, ← hvalue]
      exact .signed hne hall
    · rw [wordOf?_plain hsign] at h
      obtain ⟨hne, hall, hvalue⟩ := wordOfDigits?_eq_some_iff.1 h
      rw [← hvalue]
      exact .plain hne hall
  · intro h
    generalize hcs : s.toList = cs at h
    generalize hn : n.toNat = m at h
    cases h with
    | plain hne hall =>
      have hsign : s.toList.head? ≠ some '+' := by
        rw [hcs]
        intro hhead
        exact absurd (hall '+' (List.mem_of_head? hhead)) (by decide)
      rw [wordOf?_plain hsign, hcs]
      exact wordOfDigits?_eq_some_iff.2 ⟨hne, hall, hn.symm⟩
    | signed hne hall =>
      rw [wordOf?_signed hcs]
      exact wordOfDigits?_eq_some_iff.2 ⟨hne, hall, hn.symm⟩

/-- The words for a switch, and what they are read as. -/
def switchWords : List (String × UInt64) :=
  [("true", 1), ("on", 1), ("yes", 1), ("false", 0), ("off", 0), ("no", 0)]

/-- A word for a switch, in capitals or not, that is read as `n`. -/
def IsSwitch (n : UInt64) (s : String) : Prop := (s.map Char.toLower, n) ∈ switchWords

instance (n : UInt64) (s : String) : Decidable (IsSwitch n s) :=
  inferInstanceAs (Decidable (_ ∈ _))

theorem switchOf?_eq_some_iff {s : String} {n : UInt64} :
    switchOf? s = some n ↔ IsSwitch n s := by
  rw [switchOf?, IsSwitch]
  generalize s.map Char.toLower = word
  constructor
  · intro h
    split at h
    · next hw =>
      cases h
      simp only [List.contains_eq_mem, decide_eq_true_eq, List.mem_cons, List.not_mem_nil,
        or_false] at hw
      rcases hw with rfl | rfl | rfl <;> decide
    · split at h
      · next hw =>
        cases h
        simp only [List.contains_eq_mem, decide_eq_true_eq, List.mem_cons, List.not_mem_nil,
          or_false] at hw
        rcases hw with rfl | rfl | rfl <;> decide
      · cases h
  · intro h
    simp only [switchWords, List.mem_cons, Prod.mk.injEq, List.not_mem_nil, or_false] at h
    rcases h with ⟨rfl, rfl⟩ | ⟨rfl, rfl⟩ | ⟨rfl, rfl⟩ | ⟨rfl, rfl⟩ | ⟨rfl, rfl⟩ | ⟨rfl, rfl⟩ <;>
      decide

/-- A numeral does not begin as a word does. -/
theorem head_of_isNumeral {m : Nat} {cs : List Char} (h : IsNumeral m cs) :
    ∃ c ∈ cs.head?, c.toLower.isAlpha = false := by
  have hdigit : ∀ d : Char, d.isDigit = true → d.toLower.isAlpha = false := by
    intro d hd
    have hlt : d.toNat < 0x3A := by
      simp only [Char.isDigit, Bool.and_eq_true, decide_eq_true_eq] at hd
      exact Nat.lt_succ_of_le (UInt32.le_iff_toNat_le.1 hd.2)
    have key : ∀ n < 0x3A, (Char.ofNat n).toLower.isAlpha = false := by decide
    exact Text.forall_char_lt (P := fun d => d.toLower.isAlpha = false) key d hlt
  cases h with
  | @plain ds hne hall =>
    obtain ⟨d, ds, rfl⟩ := List.exists_cons_of_ne_nil hne
    exact ⟨d, rfl, hdigit d (hall d List.mem_cons_self)⟩
  | signed hne hall => exact ⟨'+', rfl, by decide⟩

theorem not_isSwitch_of_isNumeral {s : String} {m : Nat} (h : IsNumeral m s.toList) (n : UInt64) :
    ¬ IsSwitch n s := by
  intro hswitch
  obtain ⟨c, hc, hletter⟩ := head_of_isNumeral h
  have key : (switchWords.all fun w => w.1.toList.head?.any Char.isAlpha) = true := by decide
  have hhead := List.all_eq_true.1 key _ hswitch
  rw [String.toList_map, List.head?_map, hc, Option.map_some, Option.any_some, hletter] at hhead
  cases hhead

/-- What a text is read as: the words for a switch are told from the numerals. -/
theorem secondsOf?_eq_some_iff {s : String} {n : UInt64} :
    secondsOf? s = some n ↔ IsSwitch n s ∨ IsNumeral n.toNat s.toList := by
  rw [secondsOf?, Option.or_eq_some_iff, switchOf?_eq_some_iff, wordOf?_eq_some_iff]
  constructor
  · rintro (h | ⟨-, h⟩)
    · exact .inl h
    · exact .inr h
  · rintro (h | h)
    · exact .inl h
    · refine .inr ⟨?_, h⟩
      cases hs : switchOf? s with
      | none => rfl
      | some k => exact absurd (switchOf?_eq_some_iff.1 hs) (not_isSwitch_of_isNumeral h k)

theorem secondsOf?_eq_none_iff {s : String} :
    secondsOf? s = none ↔ ∀ n, ¬ IsSwitch n s ∧ ¬ IsNumeral n.toNat s.toList := by
  simp only [Option.eq_none_iff_forall_ne_some, ne_eq, secondsOf?_eq_some_iff, not_or]

/-- The decimal digits of a word stand for it. -/
theorem secondsOf?_repr (n : UInt64) : secondsOf? n.toNat.repr = some n := by
  have hnumeral : IsNumeral (Nat.ofDigitChars 10 (Nat.toDigits 10 n.toNat) 0)
      (Nat.toDigits 10 n.toNat) :=
    .plain Nat.toDigits_ne_nil fun d hd =>
      Nat.isDigit_of_mem_toDigits (by decide) (by decide) hd
  rw [Nat.ofDigitChars_ten_toDigits] at hnumeral
  rw [secondsOf?_eq_some_iff, Nat.toList_repr]
  exact .inr hnumeral

variable {e : Environment} {vs : List (String × String)} {s : String}

/-- A field whose last text is known denotes that text, unless a variable behind it gives
something inside the field. -/
theorem denoted?_of_lastText {t : Tree} (ht : tree? start vs = some t) {f : Field}
    (h : lastText vs f = some s) : t.denoted? f.name = some (.text s) ∨
      ∃ c, t.denoted? f.name = some c ∧ c.IsCollection := by
  obtain ⟨v, hv, rfl⟩ := Option.map_eq_some_iff.1 h
  rw [Environment.denoted?_eq_getLast? f.isKey ht]
  change ((vs.filter (Concerns start f.key)).getLast?).bind _ = _ ∨
    ∃ c, ((vs.filter (Concerns start f.key)).getLast?).bind _ = some c ∧ _
  have hsub : vs.filter (Names start f.key) =
      (vs.filter (Concerns start f.key)).filter (Names start f.key) := by
    rw [List.filter_filter]
    refine List.filter_congr fun w _ => ?_
    simp only [Environment.concerns_iff, ← Bool.decide_and]
    exact decide_eq_decide.2 ⟨fun hn => ⟨hn, .inl hn⟩, fun hn => hn.1⟩
  cases hlast : (vs.filter (Concerns start f.key)).getLast? with
  | none =>
    rw [List.getLast?_eq_none_iff] at hlast
    rw [hsub, hlast] at hv
    cases hv
  | some w =>
    obtain ⟨before, hbefore⟩ := List.getLast?_eq_some_iff.1 hlast
    have hw : Concerns start f.key w :=
      of_decide_eq_true (List.mem_filter.1 (List.mem_of_getLast? hlast)).2
    rcases Environment.concerns_iff.1 hw with hn | hb
    · -- nothing stands behind the last text
      have hsingle : [w].filter (Names start f.key) = [w] :=
        List.filter_cons_of_pos (decide_eq_true hn)
      rw [hsub, hbefore, List.filter_append, hsingle, List.getLast?_concat] at hv
      cases hv
      rw [Option.bind_some, Environment.settingOf?_of_names f.isKey hn]
      exact .inl rfl
    · obtain ⟨c, hc, hcoll⟩ := Environment.settingOf?_of_isBelow f.isKey hb
      rw [Option.bind_some, hc]
      exact .inr ⟨c, rfl, hcoll⟩

/-- The overrides that can be had have what the last text of the timeout is read as. -/
theorem secondsOf?_of_ofEnvironment (he : e.texts? = some vs)
    (hs : lastText vs .timeoutSecs = some s) {o : Overrides}
    (ho : Overrides.ofEnvironment e = .ok o) :
    ∃ n, o.timeoutSecs = some n ∧ secondsOf? s = some n := by
  obtain ⟨t, ht, ho⟩ := tree_of_ofEnvironment he ho
  have htime := (ofTree_eq_ok_iff.1 ho).2.1
  rcases denoted?_of_lastText ht hs with htext | ⟨c, hc, hcoll⟩
  · rw [htext] at htime
    have hread := environmentSeconds_text_iff (t := some s) |>.1 htime
    cases hn : o.timeoutSecs with
    | none => simp [hn] at hread
    | some n =>
      rw [hn] at hread
      exact ⟨n, rfl, Option.some_inj.1 hread⟩
  · obtain ⟨cause, herr⟩ := environmentSeconds_collection (f := .timeoutSecs) hcoll
    rw [hc, herr] at htime
    cases htime

/-- What the last variable of the timeout is read as. A numeral of a word is read as its value,
and a word for a switch as one or zero, whenever the overrides can be had; a text that is
neither makes the reading fail, whatever else there is, and unless an index leads out of its
list this is told. Where no field has something inside it and no index leads out nothing else
fails. -/
theorem timeout_of_variable (he : e.texts? = some vs) (hs : lastText vs .timeoutSecs = some s) :
    (∀ n : UInt64, IsNumeral n.toNat s.toList →
      ∀ o, Overrides.ofEnvironment e = .ok o → o.timeoutSecs = some n) ∧
    (∀ n : UInt64, IsSwitch n s →
      ∀ o, Overrides.ofEnvironment e = .ok o → o.timeoutSecs = some n) ∧
    ((∀ n : UInt64, ¬ IsNumeral n.toNat s.toList ∧ ¬ IsSwitch n s) →
      ∃ cause, Overrides.ofEnvironment e = .error cause ∧ (InLists vs → ¬ cause.IsPanic)) ∧
    (InLists vs → ¬ HasInner vs → ((∃ o, Overrides.ofEnvironment e = .ok o) ↔
      ∃ n : UInt64, IsNumeral n.toNat s.toList ∨ IsSwitch n s)) := by
  have hread : ∀ n : UInt64, secondsOf? s = some n → ∀ o, Overrides.ofEnvironment e = .ok o →
      o.timeoutSecs = some n := by
    intro n hn o ho
    obtain ⟨k, hk, hsk⟩ := secondsOf?_of_ofEnvironment he hs ho
    cases hn.symm.trans hsk
    exact hk
  have hword : ∀ n : UInt64, secondsOf? s = some n ↔ IsNumeral n.toNat s.toList ∨ IsSwitch n s :=
    fun n => secondsOf?_eq_some_iff.trans or_comm
  refine ⟨fun n h => hread n ((hword n).2 (.inl h)), fun n h => hread n ((hword n).2 (.inr h)),
    ?_, ?_⟩
  · intro hneither
    cases ho : Overrides.ofEnvironment e with
    | error cause => exact ⟨cause, rfl, fun hl => not_isPanic_of_inLists he hl ho⟩
    | ok o =>
      obtain ⟨n, -, hn⟩ := secondsOf?_of_ofEnvironment he hs ho
      rcases (hword n).1 hn with h | h
      · exact absurd h (hneither n).1
      · exact absurd h (hneither n).2
  · intro hl hinner
    constructor
    · rintro ⟨o, ho⟩
      obtain ⟨n, -, hn⟩ := secondsOf?_of_ofEnvironment he hs ho
      exact ⟨n, (hword n).1 hn⟩
    · rintro ⟨n, hn⟩
      refine ⟨⟨lastText vs .targetUrl, some n, lastText vs .userAgent⟩,
        (ofEnvironment_of_plain he hl hinner).2 ⟨rfl, ?_, rfl⟩⟩
      rw [hs, Option.map_some, (hword n).2 hn, Option.map_some]

/-- Zeros in front and a plus sign make no difference to a number, and another spelling of the
name none to the variable; the first number that no word holds is refused. -/
theorem timeout_of_variable_bounds :
    let vs := [("HOME", "/root"), ("Probe_Timeout_SECS", "+018446744073709551615")]
    let ws := [("PROBE_TIMEOUT_SECS", "18446744073709551616")]
    let environment (vs : List (String × String)) : Environment :=
      ⟨vs.map fun v => (Text.Utf8.encode v.1, Text.Utf8.encode v.2)⟩
    (environment vs).texts? = some vs ∧
      lastText vs .timeoutSecs = some "+018446744073709551615" ∧ InLists vs ∧ ¬ HasInner vs ∧
      (∃ o, Overrides.ofEnvironment (environment vs) = .ok o ∧
        o.timeoutSecs = some 18446744073709551615) ∧
      (environment ws).texts? = some ws ∧
      lastText ws .timeoutSecs = some "18446744073709551616" ∧
      ∃ cause, Overrides.ofEnvironment (environment ws) = .error cause := by
  intro vs ws environment
  have htexts : ∀ vs, (environment vs).texts? = some vs := Environment.mapM_textOf?_encode
  have hvs : lastText vs .timeoutSecs = some "+018446744073709551615" := by decide +kernel
  have hws : lastText ws .timeoutSecs = some "18446744073709551616" := by decide +kernel
  have hinner : ¬ HasInner vs := by
    rintro ⟨f, v, hv, hb⟩
    revert v
    cases f <;> decide +kernel
  have hl : InLists vs := by
    rw [InLists]
    decide +kernel
  have hn : secondsOf? "+018446744073709551615" = some 18446744073709551615 := by decide +kernel
  have hnone : secondsOf? "18446744073709551616" = none := by decide +kernel
  have hnumeral := secondsOf?_eq_some_iff.1 hn |>.resolve_left (by decide +kernel)
  obtain ⟨hread, -, -, hok⟩ := timeout_of_variable (htexts vs) hvs
  obtain ⟨o, ho⟩ := (hok hl hinner).2 ⟨_, .inl hnumeral⟩
  obtain ⟨cause, hcause, -⟩ := (timeout_of_variable (htexts ws) hws).2.2.1
    fun n => (secondsOf?_eq_none_iff.1 hnone n).symm
  exact ⟨htexts vs, hvs, hl, hinner, ⟨o, ho, hread _ hnumeral o ho⟩, htexts ws, hws, cause, hcause⟩

/-- `yes` is no numeral, and yet it is read as a timeout of one second. -/
theorem timeout_of_word :
    let e : Environment := ⟨[(Text.Utf8.encode "PROBE_TIMEOUT_SECS", Text.Utf8.encode "yes")]⟩
    e.texts? = some [("PROBE_TIMEOUT_SECS", "yes")] ∧ (∀ n, ¬ IsNumeral n "yes".toList) ∧
      ∃ o, Overrides.ofEnvironment e = .ok o ∧ o.timeoutSecs = some 1 := by
  intro e
  have htexts : e.texts? = some [("PROBE_TIMEOUT_SECS", "yes")] := by decide
  have hinner : ¬ HasInner [("PROBE_TIMEOUT_SECS", "yes")] := by
    rintro ⟨f, v, hv, hb⟩
    revert v
    cases f <;> decide +kernel
  have hl : InLists [("PROBE_TIMEOUT_SECS", "yes")] := by
    rw [InLists]
    decide +kernel
  refine ⟨htexts, fun n h => not_isSwitch_of_isNumeral h 1 (by decide +kernel),
    ⟨none, some 1, none⟩, (ofEnvironment_of_plain htexts hl hinner).2 ?_, rfl⟩
  decide +kernel

end Liveness.Config
