import Liveness.Proofs.Url.Host.Ipv6
import Liveness.Proofs.Url.Percent
import Liveness.Url.Printer

/-! A host that has been read is read again from its text, except for a name with a label
whose code is too long. -/

namespace Liveness.Url

open Text Host

/-- What is known of a host that has been read: a name is in ASCII form, and is no address. -/
def Host.IsRead : Host → Prop
  | .domain name => (∃ cs, domainToAscii? cs = some name.toList) ∧ name.toList ≠ [] ∧
      Ipv4.endsInNumber name.toList = false
  | .ipv4 _ => True
  | .ipv6 _ => True

/-- The codes in a host's name are short enough to be read. -/
def Host.IsReadable : Host → Prop
  | .domain name => HasReadableLabels name.toList
  | .ipv4 _ => True
  | .ipv6 _ => True

theorem isRead_of_bracketedHost {cs : List Char} {h : Host} (hh : bracketedHost cs = .ok h) :
    h.IsRead := by
  rw [bracketedHost] at hh
  split at hh
  · split at hh <;> cases hh
    trivial
  · cases hh

theorem isRead_of_namedHost {cs : List Char} {h : Host} (hh : namedHost cs = .ok h) :
    h.IsRead := by
  rw [namedHost.eq_def] at hh
  split at hh
  · exact isRead_of_bracketedHost hh
  · split at hh
    · cases hh
    · cases hh
    · next name hne hname =>
      obtain ⟨s, -, hs⟩ := Option.bind_eq_some_iff.1 hname
      split at hh
      · split at hh <;> cases hh
        trivial
      · next hend =>
        cases hh
        refine ⟨⟨s.toList, ?_⟩, ?_, ?_⟩
        · rw [String.toList_ofList]
          exact hs
        · rw [String.toList_ofList]
          rintro rfl
          exact hne rfl
        · rw [String.toList_ofList]
          simpa using hend

/-- A character that a host's text may have: none that ends an authority or its parts. -/
structure IsHostChar (c : Char) : Prop where
  visible : 0x20 < c.toNat
  notUserinfo : c ≠ '@'
  notEnd : endsAuthority .web c = false

theorem isPlain_of_domainToAscii? {cs name : List Char} (h : domainToAscii? cs = some name)
    {c : Char} (hc : c ∈ name) : c = '.' ∨ IsPlain c := by
  obtain ⟨ls, es, hls, hes, rfl⟩ := of_domainToAscii? h
  refine (mem_joinWith hc).imp_right ?_
  rintro ⟨e, he, hc⟩
  exact isPlain_of_mem hls hes he hc

theorem isHostChar_of_plain {c : Char} (h : IsPlain c) : IsHostChar c := by
  have hf := h.allowed
  simp only [isForbidden, Bool.or_eq_false_iff, decide_eq_false_iff_not, List.contains_eq_mem,
    List.mem_cons, not_or] at hf
  refine ⟨by omega, by tauto, ?_⟩
  simp only [endsAuthority, isSlash, Bool.or_eq_false_iff, Bool.and_eq_false_iff,
    decide_eq_false_iff_not]
  tauto

theorem isHostChar_of_address {c : Char}
    (h : c = '[' ∨ c = ']' ∨ c = ':' ∨ ∃ d < 16, c = Nat.digitChar d) : IsHostChar c := by
  have hdigit : ∀ d < 16, 0x20 < (Nat.digitChar d).toNat ∧ Nat.digitChar d ≠ '@' ∧
      endsAuthority .web (Nat.digitChar d) = false := by decide
  rcases h with rfl | rfl | rfl | ⟨d, hd, rfl⟩
  · exact ⟨by decide, by decide, by decide⟩
  · exact ⟨by decide, by decide, by decide⟩
  · exact ⟨by decide, by decide, by decide⟩
  · exact ⟨(hdigit d hd).1, (hdigit d hd).2.1, (hdigit d hd).2.2⟩

theorem Host.mem_print_ipv6 {a : Ipv6} {c : Char} (hc : c ∈ (Host.ipv6 a).print) :
    c = '[' ∨ c = ']' ∨ c = ':' ∨ ∃ d < 16, c = Nat.digitChar d := by
  rcases List.mem_append.1 hc with hc | hc
  · rcases List.mem_cons.1 hc with hc | hc
    · exact .inl hc
    · exact .inr (.inr (Ipv6.mem_print hc))
  · exact .inr (.inl (List.mem_singleton.1 hc))

/-- The characters of a host: those of names, and those of addresses. -/
theorem Host.mem_print {h : Host} (hh : h.IsRead) {c : Char} (hc : c ∈ h.print) :
    c = '.' ∨ IsPlain c ∨ c = '[' ∨ c = ']' ∨ c = ':' ∨ ∃ d < 16, c = Nat.digitChar d := by
  have hname : ∀ {cs name : List Char}, domainToAscii? cs = some name → c ∈ name →
      c = '.' ∨ IsPlain c := fun hn hc => isPlain_of_domainToAscii? hn hc
  cases h with
  | domain name =>
    obtain ⟨⟨cs, hcs⟩, -, -⟩ := hh
    exact (hname hcs hc).imp_right .inl
  | ipv4 a => exact (hname (Ipv4.domainToAscii?_print a) hc).imp_right .inl
  | ipv6 a => exact .inr (.inr (Host.mem_print_ipv6 hc))

theorem isHostChar_of_mem_print {h : Host} (hh : h.IsRead) {c : Char} (hc : c ∈ h.print) :
    IsHostChar c := by
  rcases Host.mem_print hh hc with rfl | hp | ha
  · exact ⟨by decide, by decide, by decide⟩
  · exact isHostChar_of_plain hp
  · exact isHostChar_of_address ha

theorem Host.isVisible_of_mem_print {h : Host} (hh : h.IsRead) {c : Char} (hc : c ∈ h.print) :
    Percent.isVisible c = true := by
  have hlow := (isHostChar_of_mem_print hh hc).visible
  have hdigit : ∀ d < 16, (Nat.digitChar d).toNat < 0x7f := by decide
  have hhigh : c.toNat < 0x7f := by
    rcases Host.mem_print hh hc with rfl | hp | rfl | rfl | rfl | ⟨d, hd, rfl⟩
    · decide
    · have hascii := hp.ascii
      have hforbidden := hp.allowed
      simp only [isForbidden, Bool.or_eq_false_iff, decide_eq_false_iff_not] at hforbidden
      omega
    · decide
    · decide
    · decide
    · exact hdigit d hd
  simp [Percent.isVisible, Nat.le_of_lt hlow, hhigh]

theorem Host.print_ne_nil {h : Host} (hh : h.IsRead) : h.print ≠ [] := by
  cases h with
  | domain name => exact hh.2.1
  | ipv4 a =>
    intro he
    have hp := Ipv4.parse?_print a
    rw [show Ipv4.print a = [] from he] at hp
    cases hp
  | ipv6 a => exact List.cons_ne_nil _ _

theorem hostSplit_plain {cs rest : List Char} (h : ∀ c ∈ cs, c ≠ ':' ∧ c ≠ '[' ∧ c ≠ ']')
    (hr : rest = [] ∨ ∃ r, rest = ':' :: r) : hostSplit false (cs ++ rest) = (cs, rest) := by
  induction cs with
  | nil => rcases hr with rfl | ⟨r, rfl⟩ <;> rfl
  | cons c cs ih =>
    rw [List.forall_mem_cons] at h
    obtain ⟨⟨hcolon, hopen, hclose⟩, h⟩ := h
    rw [List.cons_append, hostSplit]
    simp [hcolon, hopen, hclose, ih h]

theorem hostSplit_bracketed {cs rest : List Char} (h : ∀ c ∈ cs, c ≠ '[' ∧ c ≠ ']')
    (hr : rest = [] ∨ ∃ r, rest = ':' :: r) :
    hostSplit true (cs ++ ']' :: rest) = (cs ++ [']'], rest) := by
  induction cs with
  | nil =>
    rw [List.nil_append, hostSplit]
    have hrest : hostSplit false rest = ([], rest) := hostSplit_plain (List.forall_mem_nil _) hr
    simp [hrest]
  | cons c cs ih =>
    rw [List.forall_mem_cons] at h
    obtain ⟨⟨hopen, hclose⟩, h⟩ := h
    rw [List.cons_append, hostSplit]
    simp [hopen, hclose, ih h]

theorem hostSplit_print {h : Host} (hh : h.IsRead) {rest : List Char}
    (hr : rest = [] ∨ ∃ r, rest = ':' :: r) :
    hostSplit false (h.print ++ rest) = (h.print, rest) := by
  have hname : ∀ {cs name : List Char}, domainToAscii? cs = some name →
      hostSplit false (name ++ rest) = (name, rest) := by
    intro cs name hn
    refine hostSplit_plain (fun c hc => ?_) hr
    rcases isPlain_of_domainToAscii? hn hc with rfl | hp
    · decide
    · have hf := hp.allowed
      simp only [isForbidden, Bool.or_eq_false_iff, List.contains_eq_mem,
        decide_eq_false_iff_not, List.mem_cons, not_or] at hf
      tauto
  cases h with
  | domain name =>
    obtain ⟨⟨cs, hcs⟩, -, -⟩ := hh
    exact hname hcs
  | ipv4 a => exact hname (Ipv4.domainToAscii?_print a)
  | ipv6 a =>
    have hdigits : ∀ c ∈ a.print, c ≠ '[' ∧ c ≠ ']' := by
      have key : ∀ d < 16, Nat.digitChar d ≠ '[' ∧ Nat.digitChar d ≠ ']' := by decide
      intro c hc
      rcases Ipv6.mem_print hc with rfl | ⟨d, hd, rfl⟩
      · decide
      · exact key d hd
    rw [Host.print, List.append_assoc, List.cons_append, hostSplit]
    simp [hostSplit_bracketed hdigits hr]

/-- What becomes of the ASCII form of a name. -/
def hostOfName : Option (List Char) → Except Error Host
  | none => .error .invalidInternationalName
  | some [] => .error .emptyHost
  | some name =>
    if Ipv4.endsInNumber name then
      match Ipv4.parse? name with
      | some a => .ok (.ipv4 a)
      | none => .error .invalidIpv4
    else .ok (.domain (String.ofList name))

theorem hostOfName_some {name : List Char} (h : name ≠ []) :
    hostOfName (some name) =
      if Ipv4.endsInNumber name then
        match Ipv4.parse? name with
        | some a => .ok (.ipv4 a)
        | none => .error .invalidIpv4
      else .ok (.domain (String.ofList name)) := by
  obtain ⟨c, cs, rfl⟩ := List.exists_cons_of_ne_nil h
  rfl

/-- A name without escapes and brackets is read as it is. -/
theorem namedHost_of_allowed {cs : List Char} (h : ∀ c ∈ cs, c ≠ '%' ∧ c ≠ '[') :
    namedHost cs = hostOfName (domainToAscii? cs) := by
  have hdecode : Utf8.decode? (Percent.decode cs) = some (String.ofList cs) := by
    rw [Percent.decode_of_not_mem fun hm => (h _ hm).1 rfl, Utf8.decode?_encode]
  rw [namedHost.eq_def]
  split
  · exact absurd rfl (h '[' List.mem_cons_self).2
  · rw [hdecode, Option.bind_some, String.toList_ofList]
    rfl

theorem namedHost_of_plain {cs : List Char} (h : ∀ c ∈ cs, c = '.' ∨ IsPlain c) :
    namedHost cs = hostOfName (domainToAscii? cs) := by
  refine namedHost_of_allowed fun c hc => ?_
  rcases h c hc with rfl | hp
  · decide
  · constructor <;> rintro rfl <;> exact absurd hp.allowed (by decide)

theorem namedHost_print {h : Host} (hh : h.IsRead) (hr : h.IsReadable) :
    namedHost h.print = .ok h := by
  cases h with
  | domain name =>
    obtain ⟨⟨cs, hcs⟩, hne, hend⟩ := hh
    rw [Host.print, namedHost_of_plain fun c => isPlain_of_domainToAscii? hcs,
      (domainToAscii?_again hcs).1 hr, hostOfName_some hne, hend]
    simp
  | ipv4 a =>
    have hagain := Ipv4.domainToAscii?_print a
    have hne : Ipv4.print a ≠ [] := Host.print_ne_nil (h := .ipv4 a) trivial
    rw [Host.print, namedHost_of_plain fun c => isPlain_of_domainToAscii? hagain, hagain,
      hostOfName_some hne, if_pos (Ipv4.endsInNumber_print a), Ipv4.parse?_print]
  | ipv6 a =>
    change bracketedHost (a.print ++ [']']) = _
    simp [bracketedHost, Ipv6.parse?_print]

theorem namedHost_print_of_not_readable {h : Host} (hh : h.IsRead) (hr : ¬ h.IsReadable) :
    namedHost h.print = .error .invalidInternationalName := by
  cases h with
  | domain name =>
    obtain ⟨⟨cs, hcs⟩, hne, hend⟩ := hh
    rw [Host.print, namedHost_of_plain fun c => isPlain_of_domainToAscii? hcs,
      (domainToAscii?_again hcs).2 hr]
    rfl
  | ipv4 a => exact absurd trivial hr
  | ipv6 a => exact absurd trivial hr

end Liveness.Url
