import Liveness.Proofs.Url.Percent
import Liveness.Proofs.Url.Split
import Liveness.Url.Printer

/-! Paths of URLs of the web. Segments that have been resolved are left as they are when
they are resolved again: none goes up or stays, escaped or not. -/

namespace Liveness.Url

open Host (joinWith)

theorem dots_percent {x : Char} {rest : List Char}
    (h : ∀ y ys, rest = y :: ys → ¬ (x = '2' ∧ (y = 'e' ∨ y = 'E'))) :
    dots ('%' :: x :: rest) = none := by
  rw [dots.eq_def]
  split
  · next heq => cases heq
  · next heq => cases heq
  · next heq =>
    cases heq
    rw [if_neg]
    simpa using h _ _ rfl
  · rfl

theorem dots_other {c : Char} {rest : List Char} (hdot : c ≠ '.') (hpercent : c ≠ '%') :
    dots (c :: rest) = none := by
  rw [dots.eq_def]
  split
  · next heq => cases heq
  · next heq => cases heq; exact absurd rfl hdot
  · next heq => cases heq; exact absurd rfl hpercent
  · rfl

/-- The first escape of a character that is not allowed is no dot. -/
theorem dots_escape {c : Char} (hc : Percent.path c = false) (rest : List Char) :
    dots (Percent.encodeChar Percent.path c ++ rest) = none := by
  rcases Percent.encodeChar_cases Percent.path c with ⟨ht, -⟩ | ⟨-, b, bs, hb, he⟩
  · rw [hc] at ht
    cases ht
  · have hdot : b.toNat ≠ 0x2E := by
      intro h
      have hchar : c = '.' := by
        rcases Percent.head_utf8EncodeChar hb with hb | hb
        · rw [← Char.ofNat_toNat c, ← hb, h]
        · omega
      rw [hchar] at hc
      exact absurd hc (by decide)
    have hdigits : ∀ n < 256, n ≠ 0x2E → ¬ (Percent.hexDigit (n / 16) = '2' ∧
        (Percent.hexDigit (n % 16) = 'e' ∨ Percent.hexDigit (n % 16) = 'E')) := by
      decide +kernel
    rw [he]
    refine dots_percent fun y ys hy => ?_
    cases hy
    exact hdigits _ b.toNat_lt hdot

theorem encode_path_cons {c : Char} (h : Percent.path c = true) (cs : List Char) :
    Percent.encode Percent.path (c :: cs) = c :: Percent.encode Percent.path cs := by
  rw [Percent.encode_cons, Percent.encodeChar, if_pos h]
  rfl

/-- Encoding makes no dots, and hides none. -/
theorem dots_encode (s : List Char) : dots (Percent.encode Percent.path s) = dots s := by
  have hpercent : ∀ {y : Char}, y = 'e' ∨ y = 'E' → y ≠ '%' := by
    rintro y (rfl | rfl) <;> decide
  fun_induction dots s with
  | case1 => rfl
  | case2 cs ih => rw [encode_path_cons (by decide), dots, ih]
  | case3 e cs he ih =>
    have hpath : Percent.path e = true := by
      rcases (by simpa using he : e = 'e' ∨ e = 'E') with rfl | rfl <;> decide
    rw [encode_path_cons (by decide), encode_path_cons (by decide), encode_path_cons hpath,
      dots, if_pos he, ih]
  | case4 e cs he =>
    rw [encode_path_cons (by decide), encode_path_cons (by decide)]
    refine dots_percent fun y ys hrest h => ?_
    obtain ⟨rest, hcons, -⟩ := Percent.exists_of_encode_eq_cons hrest (hpercent h.2)
    obtain ⟨rfl, -⟩ := List.cons.inj hcons
    exact he (by simpa using h.2)
  | case5 s hnil hdot hescape =>
    obtain ⟨c, cs, rfl⟩ := List.exists_cons_of_ne_nil hnil
    cases hc : Percent.path c with
    | false =>
      rw [Percent.encode_cons]
      exact dots_escape hc _
    | true =>
      rw [encode_path_cons hc]
      by_cases hc : c = '%'
      · -- what is an escape of a dot after encoding was one before
        subst hc
        cases hcs : Percent.encode Percent.path cs with
        | nil => rfl
        | cons x xs =>
          refine dots_percent fun y ys hrest h => ?_
          obtain ⟨rfl, hy⟩ := h
          obtain ⟨rest, rfl, hrest'⟩ := Percent.exists_of_encode_eq_cons hcs (by decide)
          obtain ⟨rest', rfl, -⟩ :=
            Percent.exists_of_encode_eq_cons (hrest'.trans hrest) (hpercent hy)
          exact hescape y rest' rfl
      · exact dots_other (fun h => hdot cs (h ▸ rfl)) hc

/-- A segment of a path that has been read. -/
structure IsSegment (s : List Char) : Prop where
  allowed : ∀ c ∈ s, Percent.path c = true
  noSlash : ∀ c ∈ s, isSlash .web c = false
  notUp : isUp s = false
  notStay : isStay s = false

theorem isSegment_nil : IsSegment [] := ⟨by simp, by simp, rfl, rfl⟩

theorem isSegment_encode {s : List Char} (hs : ∀ c ∈ s, isSlash .web c = false)
    (hup : isUp s = false) (hstay : isStay s = false) :
    IsSegment (Percent.encode Percent.path s) := by
  refine ⟨fun c hc => Percent.keepsEscapes_path.encode hc, fun c hc => ?_, ?_, ?_⟩
  · have hdigit : ∀ n < 16, isSlash .web (Percent.hexDigit n) = false := by decide
    rcases Percent.mem_encode hc with ⟨hc, -⟩ | rfl | ⟨n, hn, rfl⟩
    · exact hs c hc
    · decide
    · exact hdigit n hn
  · rw [isUp, dots_encode]
    exact hup
  · rw [isStay, dots_encode]
    exact hstay

theorem driveWithColon_web (above : List (List Char)) (s : List Char) :
    driveWithColon .web above s = s := by
  rw [driveWithColon.eq_def]
  split
  · rfl
  · rfl

theorem resolve_cons (above : List (List Char)) (s : List Char) {ss : List (List Char)}
    (h : ss ≠ []) : resolve .web above (s :: ss) =
      if isUp s then resolve .web (goUp above) ss
      else if isStay s then resolve .web above ss
      else resolve .web (Percent.encode Percent.path s :: above) ss := by
  obtain ⟨t, ts, rfl⟩ := List.exists_cons_of_ne_nil h
  rw [resolve, driveWithColon_web]
  exact h

theorem resolve_singleton (above : List (List Char)) (s : List Char) :
    resolve .web above [s] =
      if isUp s then ([] :: goUp above).reverse
      else if isStay s then ([] :: above).reverse
      else (Percent.encode Percent.path s :: above).reverse := by
  rw [resolve, driveWithColon_web]

/-- Segments that have been read are left as they are. -/
theorem resolve_of_segments {ss : List (List Char)} (h : ∀ s ∈ ss, IsSegment s)
    (above : List (List Char)) : resolve .web above ss = above.reverse ++ ss := by
  induction ss generalizing above with
  | nil => rw [resolve, List.append_nil]
  | cons s ss ih =>
    rw [List.forall_mem_cons] at h
    have hs : Percent.encode Percent.path s = s := Percent.encode_of_allowed h.1.allowed
    by_cases hss : ss = []
    · subst hss
      rw [resolve_singleton, h.1.notUp, h.1.notStay, hs]
      simp
    · rw [resolve_cons above s hss, h.1.notUp, h.1.notStay, hs]
      simpa using ih h.2 (s :: above)

theorem goUp_subset (above : List (List Char)) : goUp above ⊆ above := by
  cases above with
  | nil => exact List.Subset.refl _
  | cons s ss =>
    rw [goUp]
    split
    · exact List.Subset.refl _
    · exact List.subset_cons_self s ss

/-- What a list of texts leads to is a list of segments. -/
theorem isSegment_of_resolve {ss above : List (List Char)}
    (hss : ∀ s ∈ ss, ∀ c ∈ s, isSlash .web c = false) (habove : ∀ s ∈ above, IsSegment s) :
    ∀ s ∈ resolve .web above ss, IsSegment s := by
  induction ss generalizing above with
  | nil =>
    intro s hs
    exact habove s (List.mem_reverse.1 hs)
  | cons t ts ih =>
    rw [List.forall_mem_cons] at hss
    have hup : ∀ s ∈ goUp above, IsSegment s := fun s hs => habove s (goUp_subset above hs)
    have hcons : ∀ {x xs}, IsSegment x → (∀ s ∈ xs, IsSegment s) → ∀ s ∈ x :: xs, IsSegment s :=
      fun hx hxs => List.forall_mem_cons.2 ⟨hx, hxs⟩
    by_cases hts : ts = []
    · subst hts
      intro s hs
      rw [resolve_singleton] at hs
      split at hs
      · exact hcons isSegment_nil hup s (List.mem_reverse.1 hs)
      · next hu =>
        split at hs
        · exact hcons isSegment_nil habove s (List.mem_reverse.1 hs)
        · next hst =>
          exact hcons (isSegment_encode hss.1 (by simpa using hu) (by simpa using hst)) habove s
            (List.mem_reverse.1 hs)
    · rw [resolve_cons above t hts]
      split
      · exact ih hss.2 hup
      · next hu =>
        split
        · exact ih hss.2 habove
        · next hst =>
          exact ih hss.2
            (hcons (isSegment_encode hss.1 (by simpa using hu) (by simpa using hst)) habove)

theorem resolve_ne_nil {ss : List (List Char)} (h : ss ≠ []) (above : List (List Char)) :
    resolve .web above ss ≠ [] := by
  induction ss generalizing above with
  | nil => exact absurd rfl h
  | cons s ss ih =>
    by_cases hss : ss = []
    · subst hss
      rw [resolve_singleton]
      split
      · simp
      · split <;> simp
    · rw [resolve_cons above s hss]
      split
      · exact ih hss _
      · split
        · exact ih hss _
        · exact ih hss _

/-- A path that has been read behind an authority of the web. -/
def Path.IsRead : Path → Prop
  | .segments names => names ≠ [] ∧ ∀ n ∈ names, IsSegment n.toList
  | .verbatim _ => False

theorem isRead_pathOf (cs : List Char) {above : List (List Char)}
    (habove : ∀ s ∈ above, IsSegment s) : (pathOf .web above cs).IsRead := by
  have hparts : ∀ s ∈ splitPath .web cs, ∀ c ∈ s, isSlash .web c = false := by
    intro s hs c hc
    rw [splitPath_eq] at hs
    exact (mem_of_splitOnP hs hc).2
  have hne : splitPath .web cs ≠ [] := by
    rw [splitPath_eq]
    exact List.splitOnP_ne_nil _ cs
  change ((resolve .web above (splitPath .web cs)).map String.ofList ≠ [] ∧ _)
  refine ⟨by simpa using resolve_ne_nil hne above, fun n hn => ?_⟩
  obtain ⟨s, hs, rfl⟩ := List.mem_map.1 hn
  rw [String.toList_ofList]
  exact isSegment_of_resolve hparts habove s hs

theorem isRead_pathAfterAuthority (cs : List Char) : (pathAfterAuthority .web cs).IsRead := by
  rw [pathAfterAuthority.eq_def]
  split
  · exact isRead_pathOf [] (by simp)
  · split
    · exact isRead_pathOf _ (by simp)
    · exact isRead_pathOf _ (by simp)

theorem print_segments {names : List String} (h : names ≠ []) :
    (Path.segments names).print = '/' :: joinWith '/' (names.map String.toList) := by
  rw [Path.print]
  induction names with
  | nil => exact absurd rfl h
  | cons n ns ih =>
    cases ns with
    | nil => simp [joinWith]
    | cons m ms =>
      rw [List.flatMap_cons, ih (List.cons_ne_nil m ms), List.map_cons (a := n),
        joinWith_cons (by simp)]
      simp

/-- A path is read again from its text. -/
theorem pathAfterAuthority_print {p : Path} (h : p.IsRead) :
    pathAfterAuthority .web p.print = p := by
  cases p with
  | verbatim text => exact h.elim
  | segments names =>
    obtain ⟨hne, hseg⟩ := h
    have hparts : ∀ s ∈ names.map String.toList, IsSegment s := by
      intro s hs
      obtain ⟨n, hn, rfl⟩ := List.mem_map.1 hs
      exact hseg n hn
    have hsplit : splitPath .web (joinWith '/' (names.map String.toList)) =
        names.map String.toList := by
      rw [splitPath_eq]
      exact splitOnP_joinWith (by decide) (by simpa using hne) fun s hs => (hparts s hs).noSlash
    rw [print_segments hne, pathAfterAuthority, if_pos (by decide), pathOf, hsplit,
      resolve_of_segments hparts]
    simp [dropEmpty]

theorem mem_print {p : Path} (h : p.IsRead) {c : Char} (hc : c ∈ p.print) :
    Percent.path c = true := by
  cases p with
  | verbatim text => exact h.elim
  | segments names =>
    obtain ⟨n, hn, hc⟩ := List.mem_flatMap.1 hc
    rcases List.mem_cons.1 hc with rfl | hc
    · decide
    · exact (h.2 n hn).allowed c hc

theorem exists_print {p : Path} (h : p.IsRead) : ∃ rest, p.print = '/' :: rest := by
  cases p with
  | verbatim text => exact h.elim
  | segments names => exact ⟨_, print_segments h.1⟩

end Liveness.Url
