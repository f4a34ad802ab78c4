import Liveness.Proofs.Url.Authorities
import Liveness.Proofs.Url.Paths

/-! URLs of the web and their texts. Reading the text of a URL that has been read gives it
back in every part; only a host whose name has a code that is too long is refused. -/

namespace Liveness.Url

theorem afterSlashes_eq (scheme : String) (k : Kind) (cs : List Char) :
    afterSlashes scheme k cs = (readAuthority scheme k cs).map fun x =>
      build scheme k (some x.1) (pathAfterAuthority k) x.2 := by
  rw [afterSlashes]
  cases readAuthority scheme k cs <;> rfl

theorem scheme_of_afterSlashes {scheme : String} {k : Kind} {cs : List Char} {u : Url}
    (h : afterSlashes scheme k cs = .ok u) : u.scheme = scheme := by
  rw [afterSlashes_eq] at h
  obtain ⟨x, -, rfl⟩ := Except.map_eq_ok_iff.1 h
  rfl

theorem scheme_of_fileUrl {scheme : String} {cs : List Char} {u : Url}
    (h : fileUrl scheme cs = .ok u) : u.scheme = scheme := by
  rw [fileUrl.eq_def] at h
  split at h
  · split at h
    · obtain ⟨x, -, h⟩ := Except.bind_eq_ok_iff.1 h
      cases h
      rfl
    · cases h
      rfl
  · cases h
    rfl

theorem scheme_of_generalUrl {scheme : String} {cs : List Char} {u : Url}
    (h : generalUrl scheme cs = .ok u) : u.scheme = scheme := by
  rw [generalUrl.eq_def] at h
  split at h
  · exact scheme_of_afterSlashes h
  · cases h
    rfl
  · cases h
    rfl

theorem scheme_of_withScheme {scheme : String} {rest : List Char} {u : Url}
    (h : withScheme scheme rest = .ok u) : u.scheme = scheme := by
  rw [withScheme] at h
  split at h
  · exact scheme_of_afterSlashes h
  · exact scheme_of_fileUrl h
  · exact scheme_of_generalUrl h

/-- What is known of a URL of the web that has been read. -/
structure IsRead (u : Url) : Prop where
  web : Kind.ofScheme u.scheme = .web
  authority : ∃ a, u.authority = some a ∧ a.IsRead u.scheme
  path : u.path.IsRead
  query : ∀ q ∈ u.query, ∀ c ∈ q.toList, Percent.webQuery c = true
  fragment : ∀ f ∈ u.fragment, ∀ c ∈ f.toList, Percent.fragment c = true

theorem isRead_of_afterSlashes {scheme : String} {cs : List Char} {u : Url}
    (hk : Kind.ofScheme scheme = .web) (h : afterSlashes scheme .web cs = .ok u) : u.IsRead := by
  rw [afterSlashes_eq] at h
  obtain ⟨⟨a, rest⟩, ha, rfl⟩ := Except.map_eq_ok_iff.1 h
  refine ⟨hk, ⟨a, rfl, isRead_of_readAuthority ha⟩, isRead_pathAfterAuthority _, ?_, ?_⟩
  · intro q hq c hc
    obtain ⟨x, -, rfl⟩ := Option.map_eq_some_iff.1 hq
    rw [encodedQuery, String.toList_ofList] at hc
    exact Percent.keepsEscapes_webQuery.encode hc
  · intro f hf c hc
    obtain ⟨x, -, rfl⟩ := Option.map_eq_some_iff.1 hf
    rw [encodedFragment, String.toList_ofList] at hc
    exact Percent.keepsEscapes_fragment.encode hc

theorem isRead_of_withScheme {scheme : String} {rest : List Char} {u : Url}
    (h : withScheme scheme rest = .ok u) (hk : Kind.ofScheme u.scheme = .web) : u.IsRead := by
  rw [scheme_of_withScheme h] at hk
  rw [withScheme, hk] at h
  exact isRead_of_afterSlashes hk h

theorem isRead_of_parse {s : String} {u : Url} (h : parse s = .ok u)
    (hk : Kind.ofScheme u.scheme = .web) : u.IsRead := by
  rw [parse] at h
  split at h
  · cases h
  · exact isRead_of_withScheme h hk

/-- The schemes of the web begin with a letter and are in small letters. -/
theorem webScheme_spec {scheme : String} (hk : Kind.ofScheme scheme = .web) :
    (∀ c ∈ scheme.toList, isSchemeChar c = true ∧ 0x20 < c.toNat) ∧
      scheme.toList.map Char.toLower = scheme.toList ∧
      ∃ c cs, scheme.toList = c :: cs ∧ c.isAlpha = true := by
  have key : ∀ s ∈ ["http", "https", "ws", "wss", "ftp"],
      (s.toList.all fun c => isSchemeChar c && decide (0x20 < c.toNat)) = true ∧
        s.toList.map Char.toLower = s.toList ∧ s.toList.head?.any Char.isAlpha = true := by decide
  have hmem : scheme ∈ ["http", "https", "ws", "wss", "ftp"] := by
    rw [Kind.ofScheme] at hk
    split at hk
    · next h => simpa using h
    · split at hk <;> cases hk
  obtain ⟨hchars, hlower, halpha⟩ := key scheme hmem
  refine ⟨fun c hc => ?_, hlower, ?_⟩
  · simpa using List.all_eq_true.1 hchars c hc
  cases hs : scheme.toList with
  | nil =>
    rw [hs] at halpha
    cases halpha
  | cons c cs =>
    rw [hs] at halpha
    exact ⟨c, cs, rfl, halpha⟩

theorem scheme?_append {scheme : String} (hk : Kind.ofScheme scheme = .web) (rest : List Char) :
    scheme? (scheme.toList ++ ':' :: rest) = some (scheme, rest) := by
  obtain ⟨hchars, hlower, c, cs, hcs, halpha⟩ := webScheme_spec hk
  have hchars : ∀ c ∈ scheme.toList, isSchemeChar c = true := fun c hc => (hchars c hc).1
  have hcolon : ¬ isSchemeChar ':' = true := by decide
  have hhead : (scheme.toList ++ ':' :: rest).head?.any Char.isAlpha = true := by
    rw [hcs]
    exact halpha
  rw [scheme?, List.dropWhile_append_of_pos hchars, List.dropWhile_cons_of_neg hcolon]
  refine (if_pos hhead).trans ?_
  rw [List.takeWhile_append_of_pos hchars, List.takeWhile_cons_of_neg hcolon,
    List.append_nil, hlower, String.ofList_toList]

/-- A text without blanks and controls counts as it is. -/
theorem clean_of_visible {cs : List Char} (h : ∀ c ∈ cs, 0x20 < c.toNat) :
    clean (String.ofList cs) = cs := by
  have hblank : ∀ c ∈ cs, isBlank c = false := fun c hc =>
    decide_eq_false (Nat.not_le_of_lt (h c hc))
  have hdrop : ∀ xs : List Char, (∀ c ∈ xs, isBlank c = false) → xs.dropWhile isBlank = xs := by
    intro xs hxs
    cases xs with
    | nil => rfl
    | cons c xs => exact List.dropWhile_cons_of_neg (by simp [hxs c List.mem_cons_self])
  rw [clean, String.toList_ofList, hdrop cs hblank,
    hdrop cs.reverse fun c hc => hblank c (List.mem_reverse.1 hc), List.reverse_reverse]
  refine List.filter_eq_self.2 fun c hc => ?_
  have hlow : (c ≠ '\t' ∧ c ≠ '\n') ∧ c ≠ '\r' := by
    refine ⟨⟨?_, ?_⟩, ?_⟩ <;> rintro rfl <;> exact absurd (h _ hc) (by decide)
  simpa using hlow

theorem tail_ofText {path : List Char} (u : Url) (hpath : ∀ c ∈ path, c ≠ '?' ∧ c ≠ '#')
    (hquery : ∀ q ∈ u.query, ∀ c ∈ q.toList, c ≠ '#') :
    Tail.ofText (path ++ (u.printQuery ++ u.printFragment)) =
      ⟨path, u.query.map String.toList, u.fragment.map String.toList⟩ := by
  have hbefore : ∀ c ∈ path ++ u.printQuery, decide (c ≠ '#') = true := by
    intro c hc
    refine decide_eq_true ?_
    rcases List.mem_append.1 hc with hc | hc
    · exact (hpath c hc).2
    · rw [printQuery] at hc
      split at hc
      · cases hc
      · next q hq =>
        rcases List.mem_cons.1 hc with rfl | hc
        · decide
        · exact hquery q hq c hc
  have hmark : ∀ c ∈ path, decide (c ≠ '?') = true := fun c hc => decide_eq_true (hpath c hc).1
  have htake : (path ++ (u.printQuery ++ u.printFragment)).takeWhile (· ≠ '#') =
      path ++ u.printQuery := by
    rw [← List.append_assoc, List.takeWhile_append_of_pos hbefore, printFragment]
    split <;> simp
  have hdrop : (path ++ (u.printQuery ++ u.printFragment)).dropWhile (· ≠ '#') =
      u.printFragment := by
    rw [← List.append_assoc, List.dropWhile_append_of_pos hbefore, printFragment]
    split <;> simp
  have hpathPart : (path ++ u.printQuery).takeWhile (· ≠ '?') = path := by
    rw [List.takeWhile_append_of_pos hmark, printQuery]
    split <;> simp
  have hqueryPart : (path ++ u.printQuery).dropWhile (· ≠ '?') = u.printQuery := by
    rw [List.dropWhile_append_of_pos hmark, printQuery]
    split <;> simp
  rw [Tail.ofText, htake, hdrop, hpathPart, hqueryPart, printQuery, printFragment]
  cases u.query <;> cases u.fragment <;> rfl

variable {u : Url}

theorem mem_printQuery (hu : u.IsRead) {c : Char} (hc : c ∈ u.printQuery) : 0x20 < c.toNat := by
  rw [printQuery] at hc
  split at hc
  · cases hc
  · next q hq =>
    rcases List.mem_cons.1 hc with rfl | hc
    · decide
    · exact Percent.lt_of_allows (hu.query q hq c hc) (by decide)

theorem mem_printFragment (hu : u.IsRead) {c : Char} (hc : c ∈ u.printFragment) :
    0x20 < c.toNat := by
  rw [printFragment] at hc
  split at hc
  · cases hc
  · next f hf =>
    rcases List.mem_cons.1 hc with rfl | hc
    · decide
    · exact Percent.lt_of_allows (hu.fragment f hf c hc) (by decide)

theorem toChars_eq {a : Authority} (ha : u.authority = some a) :
    u.toChars = u.scheme.toList ++
      ':' :: '/' :: '/' :: (a.print ++ (u.path.print ++ (u.printQuery ++ u.printFragment))) := by
  rw [toChars, printBeforeQuery, ha]
  simp

theorem lt_of_mem_toChars (hu : u.IsRead) {c : Char} (hc : c ∈ u.toChars) : 0x20 < c.toNat := by
  obtain ⟨a, ha, hread⟩ := hu.authority
  have hscheme : ∀ c ∈ u.scheme.toList, 0x20 < c.toNat := fun c hc =>
    ((webScheme_spec hu.web).1 c hc).2
  rw [toChars_eq ha] at hc
  simp only [List.mem_append, List.mem_cons] at hc
  rcases hc with hc | rfl | rfl | rfl | hc | hc | hc | hc
  · exact hscheme c hc
  · decide
  · decide
  · decide
  · exact (mem_print_authority hread hc).1
  · exact Percent.lt_of_allows (mem_print hu.path hc) (by decide)
  · exact mem_printQuery hu hc
  · exact mem_printFragment hu hc

theorem isVisible_of_isSchemeChar {c : Char} (h : isSchemeChar c = true) :
    Percent.isVisible c = true := by
  simp only [isSchemeChar, Bool.or_eq_true, decide_eq_true_eq] at h
  rcases h with ((h | rfl) | rfl) | rfl
  · exact Percent.isVisible_of_isAlphanum h
  · decide
  · decide
  · decide

/-- The text of a URL is visible ASCII. -/
theorem isVisible_of_mem_toChars (hu : u.IsRead) {c : Char} (hc : c ∈ u.toChars) :
    Percent.isVisible c = true := by
  obtain ⟨a, ha, hread⟩ := hu.authority
  rw [toChars_eq ha] at hc
  simp only [List.mem_append, List.mem_cons] at hc
  rcases hc with hc | rfl | rfl | rfl | hc | hc | hc | hc
  · exact isVisible_of_isSchemeChar ((webScheme_spec hu.web).1 c hc).1
  · decide
  · decide
  · decide
  · exact isVisible_of_mem_authority hread hc
  · exact Percent.isVisible_of_allows (mem_print hu.path hc)
  · rw [printQuery] at hc
    split at hc
    · cases hc
    · next q hq =>
      rcases List.mem_cons.1 hc with rfl | hc
      · decide
      · exact Percent.isVisible_of_allows (hu.query q hq c hc)
  · rw [printFragment] at hc
    split at hc
    · cases hc
    · next f hf =>
      rcases List.mem_cons.1 hc with rfl | hc
      · decide
      · exact Percent.isVisible_of_allows (hu.fragment f hf c hc)

/-- The tail of a URL is put together from its text. -/
theorem build_print (hu : u.IsRead) (a : Option Authority) :
    build u.scheme .web a (pathAfterAuthority .web)
        (u.path.print ++ (u.printQuery ++ u.printFragment)) = { u with authority := a } := by
  have hpath : ∀ c ∈ u.path.print, c ≠ '?' ∧ c ≠ '#' := by
    intro c hc
    have := Percent.not_mem_of_allows (mem_print hu.path hc)
    simp only [List.mem_cons, not_or] at this
    tauto
  have hquery : ∀ q ∈ u.query, ∀ c ∈ q.toList, c ≠ '#' := by
    intro q hq c hc
    have := Percent.not_mem_of_allows (hu.query q hq c hc)
    simp only [List.mem_cons, not_or] at this
    tauto
  have hq : (u.query.map String.toList).map (encodedQuery .web) = u.query := by
    cases hq : u.query with
    | none => rfl
    | some q =>
      change some (String.ofList (Percent.encode Percent.webQuery q.toList)) = _
      rw [Percent.encode_of_allowed (hu.query q hq), String.ofList_toList]
  have hf : (u.fragment.map String.toList).map encodedFragment = u.fragment := by
    cases hf : u.fragment with
    | none => rfl
    | some f =>
      change some (String.ofList (Percent.encode Percent.fragment f.toList)) = _
      rw [Percent.encode_of_allowed (hu.fragment f hf), String.ofList_toList]
  rw [build, tail_ofText u hpath hquery]
  dsimp only
  rw [pathAfterAuthority_print hu.path, hq, hf]

/-- The text of a URL is read as the URL with what its host is read as. -/
theorem parse_toText (hu : u.IsRead) {a : Authority} (ha : u.authority = some a) {h : Host}
    (hh : a.host = some h) :
    parse u.toText = (namedHost h.print).map fun h =>
      { u with authority := some { a with host := some h } } := by
  obtain ⟨a', ha', hread⟩ := hu.authority
  cases ha.symm.trans ha'
  obtain ⟨rest, hrest⟩ := exists_print hu.path
  have hend : ∀ c ∈ (u.path.print ++ (u.printQuery ++ u.printFragment)).head?,
      endsAuthority .web c = true := by
    rw [hrest]
    rintro c ⟨⟩
    decide
  -- the text of the authority is not empty, and does not begin with a slash
  have hslashes : ('/' :: '/' :: (a.print ++
      (u.path.print ++ (u.printQuery ++ u.printFragment)))).dropWhile (isSlash .web) =
        a.print ++ (u.path.print ++ (u.printQuery ++ u.printFragment)) := by
    have hne : a.print ≠ [] := by
      obtain ⟨h', hh', hhost⟩ := hread.host
      rw [Authority.print, hh']
      simp [Host.print_ne_nil hhost]
    obtain ⟨c, cs, hcs⟩ := List.exists_cons_of_ne_nil hne
    have hc : ¬ isSlash .web c = true := by
      have := (mem_print_authority hread (hcs ▸ List.mem_cons_self)).2
      simp only [endsAuthority, Bool.or_eq_false_iff] at this
      rw [this.1.1]
      exact Bool.false_ne_true
    rw [List.dropWhile_cons_of_pos (by decide), List.dropWhile_cons_of_pos (by decide), hcs,
      List.cons_append, List.dropWhile_cons_of_neg hc]
  rw [parse, toText, clean_of_visible fun c hc => lt_of_mem_toChars hu hc, toChars_eq ha,
    scheme?_append hu.web]
  dsimp only
  rw [withScheme, hu.web]
  dsimp only
  rw [hslashes, afterSlashes_eq, readAuthority_print hread hh _ hend]
  cases namedHost h.print with
  | error e => rfl
  | ok h' => exact congrArg Except.ok (build_print hu _)

/-- The codes in the host's name are short enough to be read. -/
def IsReadable (u : Url) : Prop := ∀ h ∈ u.host?, h.IsReadable

/-- The text of a URL gives the URL back if its host can be read again. -/
theorem parse_toText_of_readable (hu : u.IsRead) (hr : u.IsReadable) : parse u.toText = .ok u := by
  obtain ⟨a, ha, hread⟩ := hu.authority
  obtain ⟨h, hh, hhost⟩ := hread.host
  have hr : h.IsReadable := hr h (by rw [host?, ha]; exact hh)
  rw [parse_toText hu ha hh, namedHost_print hhost hr]
  refine congrArg Except.ok ?_
  change { u with authority := some { a with host := some h } } = u
  rw [← hh, ← ha]

theorem parse_toText_of_not_readable (hu : u.IsRead) (hr : ¬ u.IsReadable) :
    parse u.toText = .error .invalidInternationalName := by
  obtain ⟨a, ha, hread⟩ := hu.authority
  obtain ⟨h, hh, hhost⟩ := hread.host
  have hr : ¬ h.IsReadable := by
    intro hr'
    refine hr fun h' hh' => ?_
    rw [host?, ha] at hh'
    cases hh.symm.trans hh'
    exact hr'
  rw [parse_toText hu ha hh, namedHost_print_of_not_readable hhost hr]
  rfl

end Liveness.Url
