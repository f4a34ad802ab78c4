import Liveness.Proofs.Config.Layers
import Liveness.Proofs.Config.Variables
import Liveness.Proofs.Environment.Text
import Liveness.Proofs.Text.Characters

/-! Variables that are none of ours: their names neither begin as those of overrides do nor are
the one that names a file. As texts they count for nothing. As anything else they end every
reading of the environment, and with it every loading that comes so far; so does an index in a
name of ours that leads out of its list. -/

namespace Liveness.Config

open Liveness.Environment (Concerns IsTextual LeadsOut lower lowered ownName? tree?)
open Text

/-- The small letter of a byte that is a capital. -/
def lowerByte (b : UInt8) : UInt8 := if 0x41 ≤ b.toNat ∧ b.toNat ≤ 0x5A then b + 0x20 else b

/-- The name begins as those of overrides do, in capitals or not. -/
def BeginsAsOurs (name : Bytes) : Prop := Utf8.encode "probe_" <+: name.map lowerByte

instance : DecidablePred BeginsAsOurs := fun name =>
  inferInstanceAs (Decidable (Utf8.encode "probe_" <+: name.map lowerByte))

/-- A variable that neither gives an override nor names a file. -/
structure IsForeign (name : Bytes) : Prop where
  notOurs : ¬ BeginsAsOurs name
  notPath : name ≠ Utf8.encode pathVariable

theorem lt_of_lower_mem_start {c : Char} (h : lower c ∈ start) : c.toNat < 0x80 := by
  have hsmall : ∀ d ∈ start, d.toNat < 0x80 ∧ d ≠ 'k' := by
    have key : (start.all fun d => decide (d.toNat < 0x80 ∧ d ≠ 'k')) = true := by decide
    exact fun d hd => of_decide_eq_true (List.all_eq_true.1 key d hd)
  by_contra hc
  have hself : c.toLower = c := by
    have hz : ¬ c.val ≤ 'Z'.val := fun hle => hc (Nat.lt_of_le_of_lt (UInt32.le_iff_toNat_le.1 hle)
      (by decide))
    exact dif_neg fun h => hz h.2
  rw [lower, hself] at h
  split at h
  · exact (hsmall _ h).2 rfl
  · exact hc (hsmall _ h).1

/-- A character whose small letter our names begin with has that letter's byte. -/
theorem lowerByte_utf8EncodeChar {c : Char} (h : lower c ∈ start) :
    (String.utf8EncodeChar c).map lowerByte = String.utf8EncodeChar (lower c) := by
  -- only characters of ASCII have such a small letter, and all of these can be tried
  have key : ∀ n < 0x80, lower (Char.ofNat n) ∈ start →
      (String.utf8EncodeChar (Char.ofNat n)).map lowerByte =
        String.utf8EncodeChar (lower (Char.ofNat n)) := by decide +kernel
  exact forall_char_lt (P := fun c => lower c ∈ start → (String.utf8EncodeChar c).map lowerByte =
    String.utf8EncodeChar (lower c)) key c (lt_of_lower_mem_start h) h

theorem beginsAsOurs_of_start {name : String} (h : start <+: name.toList.map lower) :
    BeginsAsOurs (Utf8.encode name) := by
  obtain ⟨rest, hrest⟩ := h
  obtain ⟨front, back, hname, hfront, -⟩ := List.map_eq_append_iff.1 hrest.symm
  have hbytes : ∀ cs : List Char, (∀ c ∈ cs, lower c ∈ start) →
      (cs.flatMap String.utf8EncodeChar).map lowerByte =
        (cs.map lower).flatMap String.utf8EncodeChar := by
    intro cs hcs
    rw [List.map_flatMap, List.flatMap_map]
    exact List.flatMap_congr fun c hc => lowerByte_utf8EncodeChar (hcs c hc)
  have hours : ∀ c ∈ front, lower c ∈ start := fun c hc => hfront ▸ List.mem_map_of_mem hc
  rw [BeginsAsOurs, Utf8.encode_eq name, hname, List.flatMap_append, List.map_append,
    hbytes front hours, hfront, Utf8.encode_eq]
  exact List.prefix_append _ _

/-- A variable that is none of ours is put nowhere. -/
theorem ownName?_of_foreign {name value : String} (h : ¬ BeginsAsOurs (Utf8.encode name)) :
    ownName? start (name, value) = none := by
  rw [Option.eq_none_iff_forall_ne_some]
  intro rest hrest
  exact h (beginsAsOurs_of_start ⟨rest, (Environment.ownName?_eq_some hrest).symm⟩)

variable {before after : List (Bytes × Bytes)} {name value : Bytes}

/-- No override can be read exactly if some variable, of whatever name, is no text. -/
theorem ofEnvironment_eq_notText_iff {e : Environment} :
    Overrides.ofEnvironment e = .error .notText ↔ ¬ e.IsText := by
  rw [← Environment.texts?_eq_none_iff, Overrides.ofEnvironment]
  cases e.texts? with
  | none => simp
  | some vs =>
    dsimp only
    cases tree? start vs with
    | none => simp
    | some t =>
      simp only [reduceCtorEq, iff_false]
      exact fun h => not_isPanic_ofTree h (.inl rfl)

theorem ofEnvironment_eq_outOfList_iff {e : Environment} {vs : List (String × String)}
    (he : e.texts? = some vs) :
    Overrides.ofEnvironment e = .error .outOfList ↔ tree? start vs = none := by
  rw [Overrides.ofEnvironment, he]
  dsimp only
  cases tree? start vs with
  | none => simp
  | some t =>
    simp only [reduceCtorEq, iff_false]
    exact fun h => not_isPanic_ofTree h (.inr rfl)

theorem exists_leadsOut {e : Environment} {vs : List (String × String)}
    (he : e.texts? = some vs) (h : Overrides.ofEnvironment e = .error .outOfList) :
    ∃ v ∈ vs, LeadsOut start v := by
  by_contra hno
  have hl : InLists vs := fun v hv hout => hno ⟨v, hv, hout⟩
  exact not_isPanic_of_inLists he hl h (.inr rfl)

/-- Whether an index leads out of its list may depend on what has been put before. Every index
from the end does so in some order. -/
theorem outOfList_perm_iff {vs : List (String × String)} :
    (∃ ws : List (String × String), ws.Perm vs ∧ Overrides.ofEnvironment
        ⟨ws.map fun v => (Utf8.encode v.1, Utf8.encode v.2)⟩ = .error .outOfList) ↔
      ∃ v ∈ vs, LeadsOut start v := by
  constructor
  · rintro ⟨ws, hp, h⟩
    obtain ⟨v, hv, hout⟩ := exists_leadsOut (Environment.mapM_textOf?_encode ws) h
    exact ⟨v, hp.mem_iff.1 hv, hout⟩
  · rintro ⟨v, hv, hout⟩
    obtain ⟨ws, hp, hnone⟩ := Environment.exists_perm_of_leadsOut hv hout
    exact ⟨ws, hp,
      (ofEnvironment_eq_outOfList_iff (Environment.mapM_textOf?_encode ws)).2 hnone⟩

theorem ofEnvironment_insert (hn : ¬ BeginsAsOurs name) (hv : IsTextual (name, value)) :
    Overrides.ofEnvironment ⟨before ++ (name, value) :: after⟩ =
      Overrides.ofEnvironment ⟨before ++ after⟩ := by
  obtain ⟨⟨n, rfl⟩, t, rfl⟩ := hv
  -- the others are texts with the variable exactly if they are so without it
  have hinsert := Environment.texts?_insert before after n t
  have happend := Environment.texts?_append before after
  cases hb : before.mapM Environment.textOf? with
  | none =>
    rw [hb] at hinsert happend
    rw [Overrides.ofEnvironment, hinsert, Overrides.ofEnvironment, happend]
    rfl
  | some bs =>
    cases ha : after.mapM Environment.textOf? with
    | none =>
      rw [hb, ha] at hinsert happend
      rw [Overrides.ofEnvironment, hinsert, Overrides.ofEnvironment, happend]
      rfl
    | some as =>
      rw [hb, ha] at hinsert happend
      refine ofEnvironment_congr_own happend hinsert ?_
      rw [List.filter_append, List.filter_cons_of_neg (by simp [ownName?_of_foreign hn]),
        List.filter_append]

theorem text?_insert (hn : name ≠ Utf8.encode pathVariable) :
    Environment.text? ⟨before ++ (name, value) :: after⟩ pathVariable =
      Environment.text? ⟨before ++ after⟩ pathVariable := by
  have hne : (Utf8.encode pathVariable == name) = false := beq_false_of_ne hn.symm
  rw [Environment.text?, Environment.get?, List.lookup_append, List.lookup_cons, hne,
    Environment.text?, Environment.get?, List.lookup_append]

/-- The file of a run is the same whatever foreign variables there are. -/
theorem chosen_insert (hn : name ≠ Utf8.encode pathVariable) (args : List String) :
    chosen args ⟨before ++ (name, value) :: after⟩ = chosen args ⟨before ++ after⟩ := by
  cases args with
  | nil => rw [chosen_nil, text?_insert hn, chosen_nil]
  | cons path rest => rfl

/-- Loading gets as far as the environment behind every file that can be had. -/
theorem load_of_ofEnvironment_error {files : Files.View} {args : List String} {e : Environment}
    {cause : EnvironmentError} (he : Overrides.ofEnvironment e = .error cause) :
    load files args e =
      (loadSource files (chosen args e)).bind fun _ => .error (.environment cause) := by
  rw [load_eq, he]
  rfl

theorem load_eq_environment_iff {files : Files.View} {args : List String} {e : Environment}
    {cause : EnvironmentError} : load files args e = .error (.environment cause) ↔
      Overrides.ofEnvironment e = .error cause ∧
        ∃ c, loadSource files (chosen args e) = .ok c := by
  constructor
  · intro h
    cases stops_of_load h with
    | file _ hw => cases hw
    | environment hc hg ho => exact ⟨ho, _, chooses_iff.1 hc ▸ hg.loadSource⟩
  · rintro ⟨he, c, hc⟩
    rw [load_of_ofEnvironment_error he, hc]
    rfl

theorem isText_insert_iff :
    Environment.IsText ⟨before ++ (name, value) :: after⟩ ↔
      IsTextual (name, value) ∧ Environment.IsText ⟨before ++ after⟩ := by
  simp only [Environment.IsText, IsTextual, List.mem_append, List.mem_cons]
  constructor
  · intro h
    exact ⟨h _ (.inr (.inl rfl)), fun v hv => h v (hv.imp_right .inr)⟩
  · rintro ⟨hv, h⟩ v (hb | rfl | ha)
    · exact h v (.inl hb)
    · exact hv
    · exact h v (.inr ha)

/-- A foreign variable that is a text, wherever it stands, has no say in the overrides and in
what is loaded. One that is no text ends the reading of the overrides, whatever else there is,
and so the loading behind every file that can be had. Besides a variable that is no text only an
index in a name of ours ends them so, and every index from the end and every one too large does in
some order of the variables: everything else is had or is an error that can be told. -/
theorem foreign_variable (before after : List (Bytes × Bytes)) (name value : Bytes)
    (h : IsForeign name) :
    (IsTextual (name, value) →
      Overrides.ofEnvironment ⟨before ++ (name, value) :: after⟩ =
        Overrides.ofEnvironment ⟨before ++ after⟩ ∧
      ∀ files args, load files args ⟨before ++ (name, value) :: after⟩ =
        load files args ⟨before ++ after⟩) ∧
    (¬ IsTextual (name, value) →
      Overrides.ofEnvironment ⟨before ++ (name, value) :: after⟩ = .error .notText ∧
      ∀ files args, load files args ⟨before ++ (name, value) :: after⟩ =
        (loadSource files (chosen args ⟨before ++ after⟩)).bind
          fun _ => .error (.environment .notText)) ∧
    (∀ e : Environment, Overrides.ofEnvironment e = .error .notText ↔ ¬ e.IsText) ∧
    (∀ (e : Environment) vs, e.texts? = some vs →
      Overrides.ofEnvironment e = .error .outOfList → ∃ v ∈ vs, LeadsOut start v) ∧
    (∀ vs : List (String × String), (∃ ws : List (String × String), ws.Perm vs ∧
        Overrides.ofEnvironment ⟨ws.map fun v => (Utf8.encode v.1, Utf8.encode v.2)⟩ =
          .error .outOfList) ↔ ∃ v ∈ vs, LeadsOut start v) ∧
    ∀ (e : Environment) cause files args, load files args e = .error (.environment cause) ↔
      Overrides.ofEnvironment e = .error cause ∧
        ∃ c, loadSource files (chosen args e) = .ok c := by
  refine ⟨fun hv => ?_, fun hv => ?_, fun e => ofEnvironment_eq_notText_iff,
    fun e vs he hout => exists_leadsOut he hout, fun vs => outOfList_perm_iff,
    fun e cause files args => load_eq_environment_iff⟩
  · have ho : Overrides.ofEnvironment ⟨before ++ (name, value) :: after⟩ =
        Overrides.ofEnvironment ⟨before ++ after⟩ := ofEnvironment_insert h.notOurs hv
    refine ⟨ho, fun files args => ?_⟩
    rw [load_eq, load_eq, chosen_insert h.notPath, ho]
  · have he : Overrides.ofEnvironment ⟨before ++ (name, value) :: after⟩ = .error .notText :=
      ofEnvironment_eq_notText_iff.2 fun he => hv (isText_insert_iff.1 he).1
    refine ⟨he, fun files args => ?_⟩
    rw [load_of_ofEnvironment_error he, chosen_insert h.notPath]

/-- `HOME` has no say if it is a text. If it is the byte `FF`, nothing can be read. -/
theorem foreign_variable_home :
    IsForeign (Utf8.encode "HOME") ∧
      Overrides.ofEnvironment ⟨[(Utf8.encode "HOME", Utf8.encode "/root"),
          (Utf8.encode "Probe_User_Agent", Utf8.encode "a")]⟩ =
        Overrides.ofEnvironment ⟨[(Utf8.encode "Probe_User_Agent", Utf8.encode "a")]⟩ ∧
      Overrides.ofEnvironment ⟨[(Utf8.encode "HOME", [0xFF]),
          (Utf8.encode "Probe_User_Agent", Utf8.encode "a")]⟩ = .error .notText := by
  have h : IsForeign (Utf8.encode "HOME") := ⟨by decide, by decide⟩
  have hbad : ¬ IsTextual (Utf8.encode "HOME", [0xFF]) := by
    rintro ⟨-, t, ht⟩
    have hnone : Utf8.decode? [0xFF] = none := by decide
    rw [Utf8.decode?_eq_some_iff.2 ht] at hnone
    cases hnone
  exact ⟨h, ((foreign_variable [] [(Utf8.encode "Probe_User_Agent", Utf8.encode "a")] _
      (Utf8.encode "/root") h).1 ⟨⟨"HOME", rfl⟩, "/root", rfl⟩).1,
    ((foreign_variable [] [(Utf8.encode "Probe_User_Agent", Utf8.encode "a")] _ [0xFF] h).2.1
      hbad).1⟩

/-- A variable that is called `FF`, which is no text, is foreign, and yet nothing can be read
beside it. Nothing can be read either where the only variable asks for the last item of a list that
is not there. -/
theorem foreign_variable_interferes :
    IsForeign [0xFF] ∧ Overrides.ofEnvironment ⟨[]⟩ = .ok .none ∧
      Overrides.ofEnvironment ⟨[([0xFF], Utf8.encode "x")]⟩ = .error .notText ∧
      load Files.Node.empty.view [] ⟨[]⟩ = .ok default ∧
      load Files.Node.empty.view [] ⟨[([0xFF], Utf8.encode "x")]⟩ =
        .error (.environment .notText) ∧
      Overrides.ofEnvironment ⟨[(Utf8.encode "PROBE_A[-1]", Utf8.encode "x")]⟩ =
        .error .outOfList := by
  refine ⟨⟨by decide, by decide⟩, ?_, ?_, ?_, ?_, ?_⟩
  · rfl
  · rfl
  · rfl
  · rfl
  · have hout : LeadsOut start ("PROBE_A[-1]", "x") := by decide +kernel
    have htexts : Environment.texts? ⟨[(Utf8.encode "PROBE_A[-1]", Utf8.encode "x")]⟩ =
        some [("PROBE_A[-1]", "x")] := Environment.mapM_textOf?_encode [("PROBE_A[-1]", "x")]
    exact (ofEnvironment_eq_outOfList_iff htexts).2
      (congrArg (Option.bind · _) (Environment.add_new hout))

end Liveness.Config
