import Liveness.Http.Client
import Liveness.Proofs.Text.Characters
import Liveness.Proofs.Url.RoundTrip
import Liveness.Text.Base64

/-! The lines of a request. No text that gets into one can break it: header values are
checked, credentials are in base 64, and the parts of a URL hold only what is seen. -/

namespace Liveness.Http

open Text

/-- Characters that may not stand in the value of a header. -/
def IsControl (c : Char) : Prop := (c.toNat < 0x20 ∧ c ≠ '\t') ∨ c.toNat = 0x7F

instance : DecidablePred IsControl := fun c =>
  inferInstanceAs (Decidable ((c.toNat < 0x20 ∧ c ≠ '\t') ∨ c.toNat = 0x7F))

theorem isValueByte_iff {b : UInt8} :
    isValueByte b = true ↔ ¬ ((b.toNat < 0x20 ∧ b.toNat ≠ 0x09) ∨ b.toNat = 0x7F) := by
  simp only [isValueByte, Bool.or_eq_true, Bool.and_eq_true, decide_eq_true_eq]
  omega

theorem isControl_iff {c : Char} :
    IsControl c ↔ (c.toNat < 0x20 ∧ c.toNat ≠ 0x09) ∨ c.toNat = 0x7F := by
  have htab : c = '\t' ↔ c.toNat = 0x09 := Char.toNat_inj.symm
  rw [IsControl, ne_eq, htab]

/-- The bytes of a text are those of a value exactly if it has no control characters. -/
theorem isValueByte_encode {s : String} :
    (∀ b ∈ Utf8.encode s, isValueByte b = true) ↔ ∀ c ∈ s.toList, ¬ IsControl c := by
  constructor
  · intro h c hc hcontrol
    rw [isControl_iff] at hcontrol
    have hlt : c.toNat < 0x80 := by omega
    have hbyte := isValueByte_iff.1 (h _ (Utf8.mem_encode_of_mem hc hlt))
    have hn : c.toNat.toUInt8.toNat = c.toNat := by
      rw [UInt8.toNat_ofNat']
      omega
    rw [hn] at hbyte
    exact hbyte hcontrol
  · intro h b hb
    rw [isValueByte_iff]
    rcases Utf8.mem_encode hb with ⟨c, hc, he⟩ | hge
    · rw [← he, ← isControl_iff]
      exact h c hc
    · omega

theorem headerValue?_eq_none_iff {s : String} :
    headerValue? s = none ↔ ∃ c ∈ s.toList, IsControl c := by
  rw [headerValue?, List.all_eq]
  simp only [isValueByte_encode, decide_eq_true_eq, ite_eq_right_iff, reduceCtorEq, imp_false]
  push Not
  rfl

/-- Bytes that stand on one line. -/
def IsLine (bs : Bytes) : Prop := ∀ b ∈ bs, isValueByte b = true

theorem isLine_of_all {bs : Bytes} (h : bs.all isValueByte = true) : IsLine bs :=
  List.all_eq_true.1 h

theorem isLine_append {as bs : Bytes} : IsLine (as ++ bs) ↔ IsLine as ∧ IsLine bs :=
  List.forall_mem_append

theorem isLine_encode {cs : List Char} (h : ∀ c ∈ cs, ¬ IsControl c) :
    IsLine (Utf8.encode (String.ofList cs)) :=
  isValueByte_encode.2 (String.toList_ofList ▸ h)

theorem IsLine.not_mem {bs : Bytes} (h : IsLine bs) {b : UInt8} (hb : isValueByte b = false) :
    b ∉ bs := by
  intro hm
  rw [h b hm] at hb
  cases hb

/-- The line of a header. -/
def Header.toLine (h : Header) : Bytes := Utf8.encode h.name ++ [0x3A, 0x20] ++ h.value

theorem Header.isLine_toLine {h : Header} (hn : IsLine (Utf8.encode h.name))
    (hv : IsLine h.value) : IsLine h.toLine := by
  have hmark : IsLine [0x3A, 0x20] := isLine_of_all (by decide)
  exact isLine_append.2 ⟨isLine_append.2 ⟨hn, hmark⟩, hv⟩

/-- The bytes of lines, with the empty one that ends a head. -/
def unlines (ls : List Bytes) : Bytes := ls.flatMap (· ++ Request.crlf) ++ Request.crlf

theorem unlines_cons (l : Bytes) (ls : List Bytes) :
    unlines (l :: ls) = l ++ (Request.crlf ++ unlines ls) := by
  simp only [unlines, List.flatMap_cons, List.append_assoc]

/-- Cut at its line feeds, a head falls into its lines and the empty one, and has nothing behind
that. -/
theorem splitOn_unlines {ls : List Bytes} (h : ∀ l ∈ ls, IsLine l) :
    (unlines ls).splitOn 0x0A = ls.map (· ++ [0x0D]) ++ [[0x0D], []] := by
  induction ls with
  | nil => rfl
  | cons l ls ih =>
    rw [List.forall_mem_cons] at h
    -- the first line feed is the one behind the first line
    have hfeed : ∀ b ∈ l ++ [0x0D], (b == (0x0A : UInt8)) = false := by
      intro b hb
      refine beq_false_of_ne ?_
      rcases List.mem_append.1 hb with hb | hb
      · rintro rfl
        exact h.1.not_mem (by decide) hb
      · rw [List.mem_singleton.1 hb]
        decide
    have hcons : unlines (l :: ls) = (l ++ [0x0D]) ++ 0x0A :: unlines ls := by
      simp [unlines, Request.crlf]
    rw [hcons, List.splitOn, List.splitOnP_append_cons_of_forall_mem hfeed _ (by decide),
      ← List.splitOn, ih h.2]
    rfl

/-- What a request for a URL asks the server for: all behind the authority but the fragment. -/
def resource (u : Url) : List Char := u.path.print ++ u.printQuery

/-- A host, with the port unless it is that of plain connections. -/
def hostAndPort (h : Url.Host) (p : UInt16) : List Char :=
  h.print ++ if p = 80 then [] else ':' :: Nat.toDigits 10 p.toNat

/-- The headers of a request for a URL with that host and port, by a client that has the name or
none. -/
def headersOf (u : Url) (h : Url.Host) (p : UInt16) (agent : Option String) : List Header :=
  ((credentials? u).map authorization).toList ++
    ⟨"accept", Utf8.encode "*/*"⟩ ::
    (agent.map fun a => (⟨"user-agent", Utf8.encode a⟩ : Header)).toList ++
    [⟨"host", Utf8.encode (String.ofList (hostAndPort h p))⟩]

/-- The lines of such a request. -/
def linesOf (u : Url) (h : Url.Host) (p : UInt16) (agent : Option String) : List Bytes :=
  (Utf8.encode "GET " ++ Utf8.encode (String.ofList (resource u)) ++ Utf8.encode " HTTP/1.1") ::
    (headersOf u h p agent).map Header.toLine

section

variable {u : Url} {h : Url.Host} {p : UInt16} {agent : Option String}

theorem encode_eq_unlines (r : Request) :
    r.encode = unlines (r.line :: r.allHeaders.map Header.toLine) := by
  rw [Request.encode, unlines, List.flatMap_cons, List.flatMap_map]
  rfl

theorem target_eq (hu : u.IsRead) : Request.target u = resource u := by
  obtain ⟨rest, hrest⟩ := Url.exists_print hu.path
  rw [Request.target, hrest, if_neg (List.cons_ne_nil _ _), resource, hrest]

theorem hostHeader_eq (hs : u.scheme = "http") (hh : u.host? = some h)
    (hp : u.effectivePort? = some p) :
    Request.hostHeader u = ⟨"host", Utf8.encode (String.ofList (hostAndPort h p))⟩ := by
  have husual : ¬ (u.scheme = "https" ∨ u.scheme = "wss") := by
    rw [hs]
    decide
  have hdefault : Url.defaultPort? u.scheme = some 80 := by
    rw [hs]
    rfl
  rw [Url.effectivePort?, hdefault] at hp
  rw [Request.hostHeader, hh, if_neg husual, hostAndPort]
  cases hport : u.authority.bind (·.port) with
  | none =>
    rw [hport] at hp
    cases hp
    rfl
  | some q =>
    rw [hport] at hp
    cases hp
    rfl

theorem hostHeader_withoutUserinfo (u : Url) :
    Request.hostHeader (withoutUserinfo u) = Request.hostHeader u := by
  rw [Request.hostHeader, Request.hostHeader, Url.host?, Url.host?, withoutUserinfo]
  cases u.authority <;> rfl

/-- The first request for a URL has these lines. -/
theorem encode_ofUrl (hu : u.IsRead) (hs : u.scheme = "http") (hh : u.host? = some h)
    (hp : u.effectivePort? = some p) :
    (Request.ofUrl (agent.map Utf8.encode) u).encode = unlines (linesOf u h p agent) := by
  have hline : ∀ v, v = u ∨ v = withoutUserinfo u → ∀ hs : List Header,
      Request.line ⟨v, hs⟩ = Utf8.encode "GET " ++ Utf8.encode (String.ofList (resource u)) ++
        Utf8.encode " HTTP/1.1" := by
    rintro v (rfl | rfl) hs
    · rw [Request.line, target_eq hu]
    · rw [Request.line, show Request.target (withoutUserinfo u) = Request.target u from rfl,
        target_eq hu]
  have hagent : ((agent.map Utf8.encode).map fun v => (⟨"user-agent", v⟩ : Header)) =
      agent.map fun a => ⟨"user-agent", Utf8.encode a⟩ := by
    rw [Option.map_map]
    rfl
  rw [encode_eq_unlines, linesOf, headersOf, Request.ofUrl, hagent]
  cases credentials? u with
  | none =>
    rw [hline u (.inl rfl), Request.allHeaders, hostHeader_eq hs hh hp]
    rfl
  | some c =>
    dsimp only
    rw [hline _ (.inr rfl), Request.allHeaders, hostHeader_withoutUserinfo,
      hostHeader_eq hs hh hp]
    rfl

theorem not_isControl_of_visible {c : Char} (h : Url.Percent.isVisible c = true) :
    ¬ IsControl c := by
  simp only [Url.Percent.isVisible, Bool.and_eq_true, decide_eq_true_eq] at h
  rw [isControl_iff]
  omega

theorem isVisible_of_mem_resource (hu : u.IsRead) {c : Char} (hc : c ∈ resource u) :
    Url.Percent.isVisible c = true ∧ c ≠ ' ' ∧ c ≠ '#' := by
  have hrefused : ∀ {refused : List Char}, ' ' ∈ refused → '#' ∈ refused →
      Url.Percent.allows refused c = true → Url.Percent.isVisible c = true ∧ c ≠ ' ' ∧ c ≠ '#' := by
    intro refused hspace hhash ha
    refine ⟨Url.Percent.isVisible_of_allows ha, ?_, ?_⟩ <;> rintro rfl
    · exact Url.Percent.not_mem_of_allows ha hspace
    · exact Url.Percent.not_mem_of_allows ha hhash
  rcases List.mem_append.1 hc with hc | hc
  · exact hrefused (by decide) (by decide) (Url.mem_print hu.path hc)
  · rw [Url.printQuery] at hc
    split at hc
    · cases hc
    · next q hq =>
      rcases List.mem_cons.1 hc with rfl | hc
      · decide
      · exact hrefused (by decide) (by decide) (hu.query q hq c hc)

theorem not_isControl_of_isHostChar {c : Char} (h : isHostChar c = true) : ¬ IsControl c := by
  have key : ∀ n < 0x80, isHostChar (Char.ofNat n) = true → ¬ IsControl (Char.ofNat n) := by
    decide +kernel
  by_cases hc : c.toNat < 0x80
  · exact forall_char_lt (P := fun c => isHostChar c = true → ¬ IsControl c) key c hc h
  · rw [isControl_iff]
    omega

theorem not_isControl_of_isDigit {c : Char} (h : c.isDigit = true) : ¬ IsControl c :=
  not_isControl_of_isHostChar (by simp [isHostChar, Char.isAlphanum, h])

theorem not_isControl_base64 {bs : Bytes} {c : Char} (hc : c ∈ Base64.encode bs) :
    ¬ IsControl c := by
  have hdigit : ∀ n, ¬ IsControl (Base64.digit n) := by
    intro n
    have key : ∀ n < 63, ¬ IsControl (Base64.digit n) := by decide +kernel
    by_cases hn : n < 63
    · exact key n hn
    · have hslash : Base64.digit n = '/' := by
        simp only [Base64.digit]
        split_ifs <;> first | omega | rfl
      rw [hslash]
      decide
  have hpad : ¬ IsControl '=' := by decide
  fun_induction Base64.encode bs with
  | case1 => cases hc
  | case2 a n =>
    simp only [List.mem_cons, List.not_mem_nil, or_false] at hc
    rcases hc with rfl | rfl | rfl | rfl <;> first | exact hdigit _ | exact hpad
  | case3 a b n =>
    simp only [List.mem_cons, List.not_mem_nil, or_false] at hc
    rcases hc with rfl | rfl | rfl | rfl <;> first | exact hdigit _ | exact hpad
  | case4 a b d rest n ih =>
    simp only [List.mem_cons] at hc
    rcases hc with rfl | rfl | rfl | rfl | hc
    · exact hdigit _
    · exact hdigit _
    · exact hdigit _
    · exact hdigit _
    · exact ih hc

theorem isLine_authorization (c : String × Option String) : IsLine (authorization c).value := by
  refine isLine_append.2 ⟨isLine_of_all (by decide), ?_⟩
  exact isLine_encode fun d hd => not_isControl_base64 hd

theorem isLine_name {name : String}
    (h : name ∈ ["authorization", "accept", "user-agent", "host"]) : IsLine (Utf8.encode name) := by
  have key : ∀ n ∈ ["authorization", "accept", "user-agent", "host"],
      (Utf8.encode n).all isValueByte = true := by decide
  exact isLine_of_all (key name h)

theorem isLine_of_mem_linesOf (hu : u.IsRead) (hhost : ∀ c ∈ h.print, isHostChar c = true)
    (hagent : ∀ a ∈ agent, IsLine (Utf8.encode a)) {l : Bytes} (hl : l ∈ linesOf u h p agent) :
    IsLine l := by
  rcases List.mem_cons.1 hl with rfl | hl
  · refine isLine_append.2 ⟨isLine_append.2 ⟨isLine_of_all (by decide), ?_⟩,
      isLine_of_all (by decide)⟩
    exact isLine_encode fun c hc => not_isControl_of_visible (isVisible_of_mem_resource hu hc).1
  · obtain ⟨header, hheader, rfl⟩ := List.mem_map.1 hl
    simp only [headersOf, List.mem_append, List.mem_cons, Option.mem_toList, Option.map_eq_some_iff,
      List.not_mem_nil, or_false] at hheader
    rcases hheader with (⟨c, -, rfl⟩ | rfl | ⟨a, ha, rfl⟩) | rfl
    · exact Header.isLine_toLine (isLine_name (by simp [authorization])) (isLine_authorization c)
    · exact Header.isLine_toLine (isLine_name (by simp)) (isLine_of_all (by decide))
    · exact Header.isLine_toLine (isLine_name (by simp)) (hagent a ha)
    · refine Header.isLine_toLine (isLine_name (by simp)) (isLine_encode fun c hc => ?_)
      rcases List.mem_append.1 hc with hc | hc
      · exact not_isControl_of_isHostChar (hhost c hc)
      · split at hc
        · cases hc
        · rcases List.mem_cons.1 hc with rfl | hc
          · decide
          · exact not_isControl_of_isDigit (Nat.isDigit_of_mem_toDigits (by decide) (by decide) hc)

end

end Liveness.Http
