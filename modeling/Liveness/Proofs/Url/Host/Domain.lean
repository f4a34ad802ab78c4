import Liveness.Proofs.Mapped
import Liveness.Proofs.Url.Host.Punycode
import Liveness.Proofs.Url.Split
import Liveness.Url.Host.Domain

/-! The ASCII form of a domain name is its own ASCII form, unless the code of a label in it is
too long to be read: a label may be written in Punycode that is more than twice its length. -/

namespace Liveness.Url.Host

open Unicode

variable {cs : List Char}

/-- A character that stays as it is in names, and is no dot. -/
structure IsPlain (c : Char) : Prop where
  ascii : c.toNat < 0x80
  allowed : isForbidden c = false
  ne_dot : c ≠ '.'

theorem not_isUpper_of_allowed {c : Char} (h : isForbidden c = false) : c.isUpper = false := by
  simp only [isForbidden, Bool.or_eq_false_iff] at h
  exact h.1.2

theorem fate_of_ascii {c : Char} (hc : c.toNat < 0x80) (hu : c.isUpper = false) :
    fate c = .keep := by
  have key : ∀ n < 0x80, (Char.ofNat n).isUpper = false → fate (Char.ofNat n) = .keep := by
    decide
  exact Text.forall_char_lt (P := fun c => c.isUpper = false → fate c = .keep) key c hc hu

theorem mapped?_of_ascii (h : ∀ c ∈ cs, c.toNat < 0x80 ∧ c.isUpper = false) :
    mapped? cs = some cs := by
  induction cs with
  | nil => rfl
  | cons c cs ih =>
    rw [List.forall_mem_cons] at h
    rw [mapped?, fate_of_ascii h.1.1 h.1.2, ih h.2]
    rfl

theorem normalize_of_ascii (h : ∀ c ∈ cs, c.toNat < 0x80) : normalize cs = cs :=
  if_pos (List.all_eq_true.2 fun c hc => decide_eq_true (h c hc))

/-- The conditions on the labels of a name. -/
def fit (ls : List (List Char)) : Bool :=
  !ls.any (·.any isForbidden) && ls.all labelIsValid &&
    !(ls.any (·.any isRightToLeft) && !ls.all directionIsValid)

theorem domainToAscii?_eq (name : List Char) :
    domainToAscii? name = (mapped? name).bind fun mapped =>
      ((splitOn '.' (normalize mapped)).mapM meaning?).bind fun ls =>
        if fit ls then (ls.mapM encodedLabel?).map (joinWith '.') else none := by
  change ((mapped? name).bind fun mapped =>
      ((splitOn '.' (normalize mapped)).mapM meaning?).bind fun ls =>
        if ls.any (·.any isForbidden) then none
        else if !ls.all labelIsValid then none
        else if ls.any (·.any isRightToLeft) && !ls.all directionIsValid then none
        else (ls.mapM encodedLabel?).bind fun es => some (joinWith '.' es)) = _
  congr 2
  funext mapped
  congr 2
  funext ls
  rw [fit]
  cases ls.any (·.any isForbidden) <;> cases ls.all labelIsValid <;>
    cases ls.any (·.any isRightToLeft) && !ls.all directionIsValid <;>
    simp [Option.map_eq_bind]

/-- The labels that a name is made of. -/
structure IsName (ls : List (List Char)) : Prop where
  ne_nil : ls ≠ []
  fit : fit ls = true
  noDot : ∀ l ∈ ls, '.' ∉ l
  /-- What is in ASCII is no code. -/
  noCode : ∀ l ∈ ls, isAscii l = true → l.take 4 ≠ punycodePrefix

theorem IsName.allowed {ls : List (List Char)} (h : IsName ls) {l : List Char} (hl : l ∈ ls)
    {c : Char} (hc : c ∈ l) : isForbidden c = false := by
  have := h.fit
  simp only [Host.fit, Bool.and_eq_true, Bool.not_eq_true', List.any_eq_false] at this
  have hl := this.1.1 l hl
  rw [Bool.not_eq_true, List.any_eq_false] at hl
  simpa using hl c hc

/-- A label that some text stands for has no dot if the text has none, and is written in
Punycode only where it has to be. -/
theorem meaning?_spec {s l : List Char} (h : meaning? s = some l) (hs : '.' ∉ s) :
    '.' ∉ l ∧ (isAscii l = true → l.take 4 ≠ punycodePrefix) := by
  rw [meaning?] at h
  split at h
  · dsimp only at h
    split at h
    · cases h
    · obtain ⟨hd, hascii⟩ := Option.filter_eq_some_iff.1 h
      refine ⟨fun hdot => ?_, fun ha => ?_⟩
      · rcases Punycode.mem_decode? hd hdot with hm | hle
        · exact hs (List.mem_of_mem_drop hm)
        · exact absurd hle (by decide)
      · rw [ha] at hascii
        cases hascii
  · next hprefix =>
    cases h
    exact ⟨hs, fun _ => hprefix⟩

/-- A name that has an ASCII form is made of labels, of which that form is put together. -/
theorem of_domainToAscii? {name : List Char} (h : domainToAscii? cs = some name) :
    ∃ ls es, IsName ls ∧ ls.mapM encodedLabel? = some es ∧ name = joinWith '.' es := by
  rw [domainToAscii?_eq] at h
  obtain ⟨mapped, -, h⟩ := Option.bind_eq_some_iff.1 h
  obtain ⟨ls, hls, h⟩ := Option.bind_eq_some_iff.1 h
  split at h
  · next hfit =>
    obtain ⟨es, hes, h⟩ := Option.map_eq_some_iff.1 h
    have hall := mapM_eq_some_iff.1 hls
    have hspec : ∀ l ∈ ls, '.' ∉ l ∧ (isAscii l = true → l.take 4 ≠ punycodePrefix) := by
      intro l hl
      obtain ⟨s, hs, hm⟩ := exists_of_mapM_eq_some hls hl
      exact meaning?_spec hm (not_mem_of_splitOn hs)
    refine ⟨ls, es, ⟨?_, hfit, fun l hl => (hspec l hl).1, fun l hl => (hspec l hl).2⟩, hes,
      h.symm⟩
    rintro rfl
    exact splitOn_ne_nil '.' _ (List.forall₂_nil_right_iff.1 hall)
  · cases h

/-- The code of a label, if it has one, is short enough to be read. -/
def HasReadableCode (e : List Char) : Prop :=
  e.take 4 = punycodePrefix → (e.drop 4).length ≤ maxDecoded

theorem isPlain_of_encodedLabel? {l e : List Char} (h : encodedLabel? l = some e)
    (hdot : '.' ∉ l) (hall : ∀ c ∈ l, isForbidden c = false) {c : Char} (hc : c ∈ e) :
    IsPlain c := by
  have hmem : ∀ x ∈ l, x.toNat < 0x80 → IsPlain x := fun x hx hlt =>
    ⟨hlt, hall x hx, fun e => hdot (e ▸ hx)⟩
  have hcode : ∀ x ∈ punycodePrefix, IsPlain x := by
    intro x hx
    have : x = 'x' ∨ x = 'n' ∨ x = '-' ∨ x = '-' := by simpa [punycodePrefix] using hx
    rcases this with rfl | rfl | rfl | rfl <;> exact ⟨by decide, by decide, by decide⟩
  have hdigit : ∀ d < 36, (Punycode.digitChar d).toNat < 0x80 ∧
      isForbidden (Punycode.digitChar d) = false ∧ Punycode.digitChar d ≠ '.' := by decide
  rw [encodedLabel?] at h
  split at h
  · next ha =>
    cases h
    exact hmem c hc (by simpa using List.all_eq_true.1 ha c hc)
  · split at h
    · cases h
    · cases h
      rcases List.mem_append.1 hc with hc | hc
      · exact hcode c hc
      · rcases Punycode.mem_encode hc with ⟨hc, hlt⟩ | rfl | ⟨d, hd, rfl⟩
        · exact hmem c hc hlt
        · exact hcode '-' (by decide)
        · exact ⟨(hdigit d hd).1, (hdigit d hd).2.1, (hdigit d hd).2.2⟩

/-- What has been written for a label is read as that label, if it is not too long. -/
theorem meaning?_of_encodedLabel? {l e : List Char} (h : encodedLabel? l = some e)
    (hl : isAscii l = true → l.take 4 ≠ punycodePrefix) (hr : HasReadableCode e) :
    meaning? e = some l := by
  rw [encodedLabel?] at h
  split at h
  · next ha =>
    cases h
    rw [meaning?, if_neg (hl ha)]
  · next ha =>
    split at h
    · cases h
    · cases h
      have htake : (punycodePrefix ++ Punycode.encode l).take 4 = punycodePrefix := rfl
      have hdrop : (punycodePrefix ++ Punycode.encode l).drop 4 = Punycode.encode l := rfl
      have hhigh : ∃ c ∈ l, Punycode.firstPoint ≤ c.toNat := by
        simpa [isAscii, Punycode.firstPoint] using ha
      obtain ⟨d, hd, hlast⟩ := Punycode.getLast?_encode hhigh
      have hne : Punycode.encode l ≠ [] := by
        intro he
        rw [he] at hlast
        cases hlast
      have hhyphen : (Punycode.encode l).getLast? ≠ some '-' := by
        rw [hlast, Ne, Option.some_inj]
        exact Punycode.digitChar_ne_hyphen d hd
      have hlen : ¬ maxDecoded < (Punycode.encode l).length := by
        have := hr htake
        rw [hdrop] at this
        omega
      rw [meaning?, if_pos htake, hdrop]
      dsimp only
      rw [if_neg (by simp [hne, hhyphen, hlen]), Punycode.decode?_encode]
      simp [Option.filter, ha]

theorem meaning?_of_not_readable {e : List Char} (h : ¬ HasReadableCode e) :
    meaning? e = none := by
  rw [HasReadableCode, Classical.not_imp, Nat.not_le] at h
  rw [meaning?, if_pos h.1]
  dsimp only
  rw [if_pos]
  simp only [Bool.or_eq_true, decide_eq_true_eq]
  exact .inr h.2

/-- No label of a name has a code that is too long. -/
def HasReadableLabels (name : List Char) : Prop :=
  ∀ e ∈ splitOn '.' name, HasReadableCode e

variable {ls es : List (List Char)}

theorem isPlain_of_mem (h : IsName ls) (hes : ls.mapM encodedLabel? = some es) {e : List Char}
    (he : e ∈ es) {c : Char} (hc : c ∈ e) : IsPlain c := by
  obtain ⟨l, hl, hle⟩ := exists_of_mapM_eq_some hes he
  exact isPlain_of_encodedLabel? hle (h.noDot l hl) (fun c hc => h.allowed hl hc) hc

theorem splitOn_name (h : IsName ls) (hes : ls.mapM encodedLabel? = some es) :
    splitOn '.' (joinWith '.' es) = es := by
  refine splitOn_joinWith ?_ fun e he hdot => (isPlain_of_mem h hes he hdot).ne_dot rfl
  rintro rfl
  exact h.ne_nil (List.forall₂_nil_right_iff.1 (mapM_eq_some_iff.1 hes))

theorem domainToAscii?_name (h : IsName ls) (hes : ls.mapM encodedLabel? = some es) :
    domainToAscii? (joinWith '.' es) =
      (es.mapM meaning?).bind fun ls =>
        if fit ls then (ls.mapM encodedLabel?).map (joinWith '.') else none := by
  have hplain : ∀ c ∈ joinWith '.' es, c.toNat < 0x80 ∧ c.isUpper = false := by
    intro c hc
    rcases mem_joinWith hc with rfl | ⟨e, he, hc⟩
    · decide
    · have := isPlain_of_mem h hes he hc
      exact ⟨this.ascii, not_isUpper_of_allowed this.allowed⟩
  rw [domainToAscii?_eq, mapped?_of_ascii hplain, Option.bind_some,
    normalize_of_ascii fun c hc => (hplain c hc).1, splitOn_name h hes]

theorem domainToAscii?_of_readable (h : IsName ls) (hes : ls.mapM encodedLabel? = some es)
    (hr : ∀ e ∈ es, HasReadableCode e) :
    domainToAscii? (joinWith '.' es) = some (joinWith '.' es) := by
  have hback : es.mapM meaning? = some ls :=
    mapM_back hes fun l hl e he hle => meaning?_of_encodedLabel? hle (h.noCode l hl) (hr e he)
  rw [domainToAscii?_name h hes, hback, Option.bind_some, if_pos h.fit, hes]
  rfl

theorem domainToAscii?_of_not_readable (h : IsName ls) (hes : ls.mapM encodedLabel? = some es)
    {e : List Char} (he : e ∈ es) (hlong : ¬ HasReadableCode e) :
    domainToAscii? (joinWith '.' es) = none := by
  rw [domainToAscii?_name h hes, mapM_eq_none he (meaning?_of_not_readable hlong)]
  rfl

/-- A name in ASCII form is its own ASCII form exactly if all of its codes can be read. -/
theorem domainToAscii?_again {name : List Char} (h : domainToAscii? cs = some name) :
    (HasReadableLabels name → domainToAscii? name = some name) ∧
      (¬ HasReadableLabels name → domainToAscii? name = none) := by
  obtain ⟨ls, es, hls, hes, rfl⟩ := of_domainToAscii? h
  rw [HasReadableLabels, splitOn_name hls hes]
  refine ⟨domainToAscii?_of_readable hls hes, fun hr => ?_⟩
  obtain ⟨e, he, hlong⟩ : ∃ e ∈ es, ¬ HasReadableCode e := by simpa using hr
  exact domainToAscii?_of_not_readable hls hes he hlong

/-- A name in which nothing has to be mapped or coded is its own ASCII form. -/
theorem domainToAscii?_of_plain (hne : es ≠ []) (hplain : ∀ e ∈ es, ∀ c ∈ e, IsPlain c)
    (hcode : ∀ e ∈ es, e.take 4 ≠ punycodePrefix) :
    domainToAscii? (joinWith '.' es) = some (joinWith '.' es) := by
  have hascii : ∀ e ∈ es, isAscii e = true := fun e he =>
    List.all_eq_true.2 fun c hc => decide_eq_true (hplain e he c hc).ascii
  have hleft : ∀ e ∈ es, e.any isRightToLeft = false := by
    intro e he
    rw [List.any_eq_false]
    intro c hc
    have := (hplain e he c hc).ascii
    rw [isRightToLeft, decide_eq_false (by omega)]
    simp
  have hname : IsName es := by
    refine ⟨hne, ?_, fun e he hdot => (hplain e he _ hdot).ne_dot rfl, fun e he _ => hcode e he⟩
    have hforbidden : es.any (·.any isForbidden) = false := by
      rw [List.any_eq_false]
      intro e he
      simpa using fun c hc => (hplain e he c hc).allowed
    have hvalid : es.all labelIsValid = true := by
      rw [List.all_eq_true]
      intro e he
      rw [labelIsValid, hascii e he, Bool.true_or]
    have hdirected : es.any (·.any isRightToLeft) = false := by
      rw [List.any_eq_false]
      intro e he
      rw [hleft e he]
      exact Bool.false_ne_true
    rw [fit, hforbidden, hvalid, hdirected]
    rfl
  have hes : es.mapM encodedLabel? = some es := by
    rw [mapM_eq_some_iff, List.forall₂_same]
    intro e he
    exact if_pos (hascii e he)
  exact domainToAscii?_of_readable hname hes fun e he ht => absurd ht (hcode e he)

end Liveness.Url.Host
