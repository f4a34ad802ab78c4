import Liveness.Proofs.Except
import Liveness.Proofs.Url.Hosts

/-! Authorities of the web: what has been read is read again from its text, apart from the
host, which is read for itself. -/

namespace Liveness.Url

/-- Under the rules of the web there is a host. -/
theorem readHost_web {cs : List Char} {host : Option Host} (h : readHost .web cs = .ok host) :
    ∃ h, host = some h ∧ namedHost cs = .ok h := by
  rw [readHost, if_neg (by decide)] at h
  split at h
  · cases h
  · obtain ⟨h', hn, rfl⟩ := Except.map_eq_ok_iff.1 h
    exact ⟨h', rfl, hn⟩

/-- Name and password, and the text of host and port. -/
def locate (text : List Char) : List Char × List Char := (userinfoSplit text).getD ([], text)

theorem readAuthority_web (scheme : String) (cs : List Char) :
    readAuthority scheme .web cs =
      let text := cs.takeWhile fun c => !endsAuthority .web c
      let rest := cs.dropWhile fun c => !endsAuthority .web c
      let location := hostSplit false (locate text).2
      if (userinfoSplit text).isSome && (locate text).1 = [] && (locate text).2 = [] && rest ≠ []
      then .error .emptyHost
      else (readHost .web location.1).bind fun host => (readPort scheme location.2).map fun x =>
        (⟨username (locate text).1, password? (locate text).1, host, x.1⟩, x.2 ++ rest) := by
  rw [readAuthority]
  dsimp only [locate]
  refine if_congr Iff.rfl rfl ?_
  generalize hostSplit false _ = location
  cases hhost : readHost .web location.1 with
  | error e => rfl
  | ok host =>
    obtain ⟨h, rfl, -⟩ := readHost_web hhost
    cases readPort scheme location.2 <;> rfl

/-- What is known of an authority that has been read. -/
structure Authority.IsRead (scheme : String) (a : Authority) : Prop where
  username : ∀ c ∈ a.username.toList, Percent.userinfo c = true
  password : ∀ p ∈ a.password, p.toList ≠ [] ∧ ∀ c ∈ p.toList, Percent.userinfo c = true
  host : ∃ h, a.host = some h ∧ h.IsRead
  port : ∀ p ∈ a.port, some p ≠ defaultPort? scheme

theorem port_ne_default {scheme : String} {cs rest : List Char} {port : Option UInt16}
    (h : readPort scheme cs = .ok (port, rest)) : ∀ p ∈ port, some p ≠ defaultPort? scheme := by
  rw [readPort.eq_def] at h
  split at h
  · dsimp only at h
    split at h
    · cases h
    · split at h
      · cases h
      · split at h
        · cases h
        · split at h
          · cases h
            simp
          · next hdefault =>
            cases h
            rintro p ⟨⟩
            simp only [Bool.or_eq_true, decide_eq_true_eq, not_or] at hdefault
            exact hdefault.2
  · cases h
    simp

theorem isRead_of_readAuthority {scheme : String} {cs rest : List Char} {a : Authority}
    (h : readAuthority scheme .web cs = .ok (a, rest)) : a.IsRead scheme := by
  rw [readAuthority_web] at h
  dsimp only at h
  split at h
  · cases h
  · obtain ⟨host, hhost, h⟩ := Except.bind_eq_ok_iff.1 h
    obtain ⟨⟨port, afterPort⟩, hport, h⟩ := Except.map_eq_ok_iff.1 h
    obtain ⟨host, rfl, hnamed⟩ := readHost_web hhost
    cases h
    refine ⟨fun c hc => ?_, fun p hp => ?_, ⟨host, rfl, isRead_of_namedHost hnamed⟩,
      port_ne_default hport⟩
    · rw [username, String.toList_ofList] at hc
      exact Percent.keepsEscapes_userinfo.encode hc
    · dsimp only [password?] at hp
      split at hp
      · cases hp
        rw [String.toList_ofList]
        exact ⟨fun he => List.cons_ne_nil _ _ (Percent.encode_eq_nil he), fun c hc =>
          Percent.keepsEscapes_userinfo.encode hc⟩
      · cases hp

theorem userinfoSplit_of_not_mem {cs : List Char} (h : '@' ∉ cs) : userinfoSplit cs = none := by
  rw [userinfoSplit, afterLast_of_not_mem h]
  exact if_neg (Nat.lt_irrefl _)

theorem userinfoSplit_append (before : List Char) {cs : List Char} (h : '@' ∉ cs) :
    userinfoSplit (before ++ '@' :: cs) = some (before, cs) := by
  have htake : before.length + (cs.length + 1) - cs.length - 1 = before.length := by omega
  rw [userinfoSplit, afterLast_append before h]
  simp only [List.length_append, List.length_cons]
  rw [if_pos (by omega), htake, List.take_left]

/-- The name and the password with the colon between them. -/
def Authority.userinfo (a : Authority) : List Char :=
  match a.password with
  | none => a.username.toList
  | some p => a.username.toList ++ ':' :: p.toList

theorem Authority.printUserinfo_eq (a : Authority) :
    a.printUserinfo = if a.userinfo = [] then [] else a.userinfo ++ ['@'] := by
  rw [printUserinfo, userinfo]
  cases a.password with
  | none =>
    have : a.username = "" ↔ a.username.toList = [] := by simp
    simp only [this]
  | some p => simp

variable {scheme : String} {a : Authority}

theorem ne_of_userinfo {c : Char} (h : Percent.userinfo c = true) :
    0x20 < c.toNat ∧ c ≠ ':' ∧ c ≠ '@' ∧ endsAuthority .web c = false := by
  have hrefused := Percent.not_mem_of_allows h
  simp only [List.mem_cons, not_or] at hrefused
  refine ⟨Percent.lt_of_allows h (by decide), by tauto, by tauto, ?_⟩
  simp only [endsAuthority, isSlash, Bool.or_eq_false_iff, Bool.and_eq_false_iff,
    decide_eq_false_iff_not]
  tauto

theorem Authority.mem_userinfo (ha : a.IsRead scheme) {c : Char} (hc : c ∈ a.userinfo) :
    c = ':' ∨ Percent.userinfo c = true := by
  rw [userinfo] at hc
  split at hc
  · exact .inr (ha.username c hc)
  · next p hp =>
    rcases List.mem_append.1 hc with hc | hc
    · exact .inr (ha.username c hc)
    · exact (List.mem_cons.1 hc).imp_right ((ha.password p hp).2 c)

theorem username_userinfo (ha : a.IsRead scheme) : username a.userinfo = a.username := by
  have hall : ∀ c ∈ a.username.toList, decide (c ≠ ':') = true := fun c hc =>
    decide_eq_true (ne_of_userinfo (ha.username c hc)).2.1
  have hname : a.userinfo.takeWhile (· ≠ ':') = a.username.toList := by
    rw [Authority.userinfo]
    split
    · exact List.takeWhile_eq_self_iff.2 hall
    · rw [List.takeWhile_append_of_pos hall]
      simp
  rw [username, hname, Percent.encode_of_allowed ha.username, String.ofList_toList]

theorem password?_userinfo (ha : a.IsRead scheme) : password? a.userinfo = a.password := by
  have hall : ∀ c ∈ a.username.toList, decide (c ≠ ':') = true := fun c hc =>
    decide_eq_true (ne_of_userinfo (ha.username c hc)).2.1
  rw [password?, Authority.userinfo]
  cases hp : a.password with
  | none =>
    rw [List.dropWhile_eq_nil_iff.2 hall]
  | some p =>
    obtain ⟨hne, hchars⟩ := ha.password p hp
    obtain ⟨c, cs, hcs⟩ := List.exists_cons_of_ne_nil hne
    rw [List.dropWhile_append_of_pos hall, List.dropWhile_cons_of_neg (by simp), hcs]
    dsimp only
    rw [← hcs, Percent.encode_of_allowed hchars, String.ofList_toList]

theorem printPort_cases (a : Authority) : a.printPort = [] ∨ ∃ r, a.printPort = ':' :: r := by
  rw [Authority.printPort]
  split
  · exact .inl rfl
  · exact .inr ⟨_, rfl⟩

theorem mem_printPort {c : Char} (hc : c ∈ a.printPort) : c = ':' ∨ c.isDigit = true := by
  rw [Authority.printPort] at hc
  split at hc
  · cases hc
  · rcases List.mem_cons.1 hc with hc | hc
    · exact .inl hc
    · exact .inr (Nat.isDigit_of_mem_toDigits (by decide) (by decide) hc)

theorem readPort_print (ha : a.IsRead scheme) : readPort scheme a.printPort = .ok (a.port, []) := by
  rw [Authority.printPort]
  cases hport : a.port with
  | none => rfl
  | some p =>
    have hdigits : ∀ c ∈ Nat.toDigits 10 p.toNat, c.isDigit = true := fun c hc =>
      Nat.isDigit_of_mem_toDigits (by decide) (by decide) hc
    have htake := List.takeWhile_eq_self_iff.2 hdigits
    have hdrop := List.dropWhile_eq_nil_iff.2 hdigits
    have hp := p.toNat_lt
    have hback : p.toNat.toUInt16 = p := by simp
    rw [readPort, htake, hdrop, Host.number?_toDigits (by decide) (by decide)]
    dsimp only
    rw [if_neg (by omega), if_neg (by simp), if_neg]
    · rw [hback]
    · simp only [Bool.or_eq_true, decide_eq_true_eq, not_or, hback]
      exact ⟨Nat.toDigits_ne_nil, ha.port p hport⟩

/-- The characters of an authority. -/
theorem mem_authority (ha : a.IsRead scheme) {c : Char} (hc : c ∈ a.print) :
    c = ':' ∨ c = '@' ∨ Percent.userinfo c = true ∨ c.isDigit = true ∨
      ∃ h : Host, h.IsRead ∧ c ∈ h.print := by
  obtain ⟨h, hhost, hread⟩ := ha.host
  rw [Authority.print, hhost] at hc
  rcases List.mem_append.1 hc with hc | hc
  · rcases List.mem_append.1 hc with hc | hc
    · rw [Authority.printUserinfo_eq] at hc
      split at hc
      · cases hc
      · rcases List.mem_append.1 hc with hc | hc
        · rcases Authority.mem_userinfo ha hc with hmark | hu
          · exact .inl hmark
          · exact .inr (.inr (.inl hu))
        · exact .inr (.inl (List.mem_singleton.1 hc))
    · exact .inr (.inr (.inr (.inr ⟨h, hread, hc⟩)))
  · rcases mem_printPort hc with hmark | hd
    · exact .inl hmark
    · exact .inr (.inr (.inr (.inl hd)))

/-- No character of an authority ends it, and none is a blank. -/
theorem mem_print_authority (ha : a.IsRead scheme) {c : Char} (hc : c ∈ a.print) :
    0x20 < c.toNat ∧ endsAuthority .web c = false := by
  obtain rfl | rfl | hu | hd | ⟨h, hread, hc⟩ := mem_authority ha hc
  · decide
  · decide
  · exact ⟨(ne_of_userinfo hu).1, (ne_of_userinfo hu).2.2.2⟩
  · have := isHostChar_of_plain (Host.Ipv4.isPlain_of_digit hd)
    exact ⟨this.visible, this.notEnd⟩
  · have := isHostChar_of_mem_print hread hc
    exact ⟨this.visible, this.notEnd⟩

theorem isVisible_of_mem_authority (ha : a.IsRead scheme) {c : Char} (hc : c ∈ a.print) :
    Percent.isVisible c = true := by
  obtain rfl | rfl | hu | hd | ⟨h, hread, hc⟩ := mem_authority ha hc
  · decide
  · decide
  · exact Percent.isVisible_of_allows hu
  · exact Percent.isVisible_of_isAlphanum (by rw [Char.isAlphanum, hd, Bool.or_true])
  · exact Host.isVisible_of_mem_print hread hc

/-- The text of a host and its port has no `@`. -/
theorem not_mem_location {h : Host} (hread : h.IsRead) : '@' ∉ h.print ++ a.printPort := by
  intro hm
  rcases List.mem_append.1 hm with hm | hm
  · exact (isHostChar_of_mem_print hread hm).notUserinfo rfl
  · rcases mem_printPort hm with h | h
    · cases h
    · exact absurd h (by decide)

theorem userinfoSplit_print {h : Host} (hhost : a.host = some h) (hread : h.IsRead) :
    userinfoSplit a.print =
      if a.userinfo = [] then none else some (a.userinfo, h.print ++ a.printPort) := by
  have hprint : a.print = a.printUserinfo ++ (h.print ++ a.printPort) := by
    rw [Authority.print, hhost, List.append_assoc]
    rfl
  rw [hprint, Authority.printUserinfo_eq]
  split
  · exact userinfoSplit_of_not_mem (not_mem_location hread)
  · rw [List.append_assoc, List.singleton_append,
      userinfoSplit_append _ (not_mem_location hread)]

theorem locate_print {h : Host} (hhost : a.host = some h) (hread : h.IsRead) :
    locate a.print = (a.userinfo, h.print ++ a.printPort) := by
  rw [locate, userinfoSplit_print hhost hread]
  split
  · next hu =>
    rw [Option.getD_none, Authority.print, Authority.printUserinfo_eq, if_pos hu, hhost, hu]
    rfl
  · rfl

/-- The text of an authority, behind which comes a path, is read as the authority with what
its host is read as. -/
theorem readAuthority_print (ha : a.IsRead scheme) {h : Host} (hhost : a.host = some h)
    (path : List Char) (hpath : ∀ c ∈ path.head?, endsAuthority .web c = true) :
    readAuthority scheme .web (a.print ++ path) =
      (namedHost h.print).map fun h => ({ a with host := some h }, path) := by
  obtain ⟨h', hhost', hread⟩ := ha.host
  cases hhost.symm.trans hhost'
  have hall : ∀ c ∈ a.print, (!endsAuthority .web c) = true := by
    intro c hc
    rw [(mem_print_authority ha hc).2]
    rfl
  have htext : (a.print ++ path).takeWhile (fun c => !endsAuthority .web c) = a.print := by
    rw [List.takeWhile_append_of_pos hall]
    cases path with
    | nil => simp
    | cons c cs => simp [hpath c rfl]
  have hrest : (a.print ++ path).dropWhile (fun c => !endsAuthority .web c) = path := by
    rw [List.dropWhile_append_of_pos hall]
    cases path with
    | nil => rfl
    | cons c cs => simp [hpath c rfl]
  have hhostText : h.print ≠ [] := Host.print_ne_nil hread
  rw [readAuthority_web, htext, hrest]
  dsimp only
  rw [locate_print hhost hread, hostSplit_print hread (printPort_cases a), readPort_print ha,
    username_userinfo ha, password?_userinfo ha, if_neg (by simp [hhostText]), readHost,
    if_neg (by decide), if_neg hhostText]
  cases namedHost h.print <;> rfl

end Liveness.Url
