import Liveness.Proofs.Url.Host.Ideographs
import Liveness.Proofs.Url.RoundTrip

/-! Names that are written but not read. Each step from one code point to the next costs a
number of three digits if it is wide enough, so that the code of a label of a thousand
characters may well have more than the two thousand that are read. -/

namespace Liveness.Url.Host.Punycode

/-- How many digits a number has at least. -/
def digitsAtLeast (n : Nat) : Nat := if 911 ≤ n then 3 else 1

theorem digitsAtLeast_le (bias k n : Nat) : digitsAtLeast n ≤ (encodeNumber bias k n).length := by
  have hpos : ∀ k n, 1 ≤ (encodeNumber bias k n).length := fun k n =>
    List.length_pos_iff.2 (encodeNumber_ne_nil bias k n)
  rw [digitsAtLeast]
  split
  · next hn =>
    -- what is left behind the first digit is at least as large as any threshold
    have hb := threshold_bounds k bias
    have hb' := threshold_bounds (k + 36) bias
    have hleft : 26 ≤ (n - threshold k bias) / (36 - threshold k bias) := by
      rw [Nat.le_div_iff_mul_le (by omega)]
      omega
    rw [encodeNumber, if_neg (by omega), encodeNumber, if_neg (by omega)]
    simp only [List.length_cons]
    have := hpos (k + 36 + 36) (((n - threshold k bias) / (36 - threshold k bias) -
      threshold (k + 36) bias) / (36 - threshold (k + 36) bias))
    omega
  · exact hpos k n

theorem visit_grows (basic m : Nat) (p : Progress) (c : Char) :
    p.count ≤ (p.visit basic m c).count ∧
      p.written.length ≤ (p.visit basic m c).written.length := by
  rw [Progress.visit]
  split
  · exact ⟨Nat.le_refl _, Nat.le_refl _⟩
  · split
    · simp
    · exact ⟨Nat.le_refl _, Nat.le_refl _⟩

theorem visits_grow (basic m : Nat) (cs : List Char) (p : Progress) :
    p.count ≤ (cs.foldl (Progress.visit basic m) p).count ∧
      p.written.length ≤ (cs.foldl (Progress.visit basic m) p).written.length := by
  induction cs generalizing p with
  | nil => exact ⟨Nat.le_refl _, Nat.le_refl _⟩
  | cons c cs ih =>
    have h := visit_grows basic m p c
    have h' := ih (p.visit basic m c)
    exact ⟨Nat.le_trans h.1 h'.1, Nat.le_trans h.2 h'.2⟩

/-- A code point that is in the text is written at least once. -/
theorem visits_write (basic : Nat) {m : Nat} {cs : List Char} (h : ∃ c ∈ cs, c.toNat = m)
    (p : Progress) :
    p.count + 1 ≤ (cs.foldl (Progress.visit basic m) p).count ∧
      p.written.length + digitsAtLeast p.delta ≤
        (cs.foldl (Progress.visit basic m) p).written.length := by
  induction cs generalizing p with
  | nil =>
    obtain ⟨c, hc, -⟩ := h
    cases hc
  | cons c cs ih =>
    rw [List.foldl_cons]
    rcases Nat.lt_trichotomy c.toNat m with hlt | heq | hgt
    · have hvisit : p.visit basic m c = { p with delta := p.delta + 1 } := if_pos hlt
      have hrest : ∃ c ∈ cs, c.toNat = m := by
        simpa [Nat.ne_of_lt hlt] using h
      obtain ⟨hcount, hlen⟩ := ih hrest (p.visit basic m c)
      rw [hvisit] at hcount hlen ⊢
      refine ⟨hcount, Nat.le_trans (Nat.add_le_add_left ?_ _) hlen⟩
      simp only [digitsAtLeast]
      split <;> split <;> omega
    · have hvisit : p.visit basic m c = ⟨p.written ++ encodeNumber p.bias 36 p.delta, 0,
          adapt p.delta (p.count + 1) (p.count = basic), p.count + 1⟩ := by
        rw [Progress.visit, if_neg (by omega), if_pos heq]
      obtain ⟨hcount, hlen⟩ := visits_grow basic m cs (p.visit basic m c)
      have hdigits := digitsAtLeast_le p.bias 36 p.delta
      rw [hvisit] at hcount hlen ⊢
      rw [List.length_append] at hlen
      exact ⟨hcount, by omega⟩
    · have hvisit : p.visit basic m c = p := by
        rw [Progress.visit, if_neg (by omega), if_neg (by omega)]
      have hrest : ∃ c ∈ cs, c.toNat = m := by
        simpa [Nat.ne_of_gt hgt] using h
      rw [hvisit]
      exact ih hrest p

/-- Code points with at least 28 others before each of them, counted from `n` on. -/
inductive Spaced : Nat → List Nat → Prop
  | nil {n : Nat} : Spaced n []
  | cons {n m : Nat} {ms : List Nat} : n + 28 ≤ m → Spaced (m + 1) ms → Spaced n (m :: ms)

/-- From the 32nd character on every code point takes three digits, and one before. -/
theorem length_place {cs : List Char} {ms : List Nat} {n : Nat} (hms : Spaced n ms)
    (hmem : ∀ m ∈ ms, ∃ c ∈ cs, c.toNat = m) (basic : Nat) (p : Progress) :
    p.written.length + 3 * ms.length ≤
      (place cs basic ms n p).written.length + 2 * (32 - p.count) := by
  induction hms generalizing p with
  | nil => exact Nat.le_add_right _ _
  | @cons n m ms hgap _ ih =>
    rw [List.forall_mem_cons] at hmem
    rw [place, List.length_cons]
    obtain ⟨hcount, hlen⟩ := visits_write basic hmem.1
      { p with delta := p.delta + (m - n) * (p.count + 1) }
    generalize cs.foldl (Progress.visit basic m)
      { p with delta := p.delta + (m - n) * (p.count + 1) } = q at hcount hlen ⊢
    have hrest := ih hmem.2 { q with delta := q.delta + 1 }
    dsimp only at hcount hlen hrest ⊢
    have hdigits : 32 ≤ p.count → digitsAtLeast (p.delta + (m - n) * (p.count + 1)) = 3 := by
      intro hle
      have : 28 * 33 ≤ (m - n) * (p.count + 1) := Nat.mul_le_mul (by omega) (by omega)
      exact if_pos (by omega)
    have hone : 1 ≤ digitsAtLeast (p.delta + (m - n) * (p.count + 1)) := by
      rw [digitsAtLeast]
      split <;> omega
    rcases Nat.lt_or_ge p.count 32 with hlt | hle
    · omega
    · have := hdigits hle
      omega

theorem length_encode {cs : List Char} (h : Spaced firstPoint (points cs)) :
    3 * (points cs).length ≤ (encode cs).length + 64 := by
  have hmem : ∀ m ∈ points cs, ∃ c ∈ cs, c.toNat = m := by
    intro m hm
    obtain ⟨c, hc, -, rfl⟩ := mem_points.1 hm
    exact ⟨c, hc, rfl⟩
  rw [encode]
  have := length_place h hmem (cs.filter fun c => c.toNat < firstPoint).length
    ⟨if (cs.filter fun c => c.toNat < firstPoint) = [] then []
      else (cs.filter fun c => c.toNat < firstPoint) ++ ['-'], 0, firstBias,
      (cs.filter fun c => c.toNat < firstPoint).length⟩
  dsimp only at this ⊢
  omega

theorem spaced_range' {n s : Nat} (h : n + 28 ≤ s) (k : Nat) : Spaced n (List.range' s k 29) := by
  induction k generalizing n s with
  | zero => exact .nil
  | succ k ih => exact .cons h (ih (by omega))

theorem points_of_ascending {ns : List Nat} (hasc : ns.Pairwise (· < ·))
    (hns : ∀ n ∈ ns, n.isValidChar ∧ firstPoint ≤ n) : points (ns.map Char.ofNat) = ns := by
  induction ns with
  | nil => rfl
  | cons n ns ih =>
    rw [List.pairwise_cons] at hasc
    rw [List.forall_mem_cons] at hns
    obtain ⟨⟨hvalid, hle⟩, hns⟩ := hns
    rw [List.map_cons, points, List.foldr_cons, ← points, ih hasc.2 hns,
      Text.toNat_ofNat hvalid, if_neg (by omega)]
    cases ns with
    | nil => rfl
    | cons m ms => exact if_pos (hasc.1 m List.mem_cons_self)

end Liveness.Url.Host.Punycode

namespace Liveness.Url

open Host Unicode

theorem readAuthority_of_nonAscii (scheme : String) {cs : List Char} (hne : cs ≠ [])
    (h : ∀ c ∈ cs, 0x80 ≤ c.toNat) :
    readAuthority scheme .web cs =
      (namedHost cs).map fun h => (⟨"", none, some h, none⟩, []) := by
  have hne_of : ∀ d : Char, d.toNat < 0x80 → ∀ c ∈ cs, c ≠ d := by
    rintro d hd c hc rfl
    exact absurd (h c hc) (by omega)
  have hinside : ∀ c ∈ cs, (!endsAuthority .web c) = true := by
    intro c hc
    simp [endsAuthority, isSlash, hne_of '/' (by decide) c hc, hne_of '\\' (by decide) c hc,
      hne_of '?' (by decide) c hc, hne_of '#' (by decide) c hc]
  have hno : userinfoSplit cs = none := userinfoSplit_of_not_mem fun hm =>
    hne_of '@' (by decide) _ hm rfl
  have hlocate : locate cs = ([], cs) := by rw [locate, hno]; rfl
  have hsplit : hostSplit false cs = (cs, []) := by
    have := hostSplit_plain (fun c hc => ⟨hne_of ':' (by decide) c hc, hne_of '[' (by decide) c hc,
      hne_of ']' (by decide) c hc⟩) (.inl rfl)
    rwa [List.append_nil] at this
  rw [readAuthority_web, List.takeWhile_eq_self_iff.2 hinside,
    List.dropWhile_eq_nil_iff.2 hinside]
  dsimp only
  rw [hno, hlocate, hsplit, readHost, if_neg (by simp), if_neg (by decide), if_neg hne]
  cases namedHost cs <;> rfl

theorem parse_of_nonAscii {cs : List Char} (hne : cs ≠ []) (h : ∀ c ∈ cs, 0x80 ≤ c.toNat) :
    parse (String.ofList ('h' :: 't' :: 't' :: 'p' :: ':' :: '/' :: '/' :: cs)) =
      (namedHost cs).map fun h =>
        ⟨"http", some ⟨"", none, some h, none⟩, .segments [""], none, none⟩ := by
  have hvisible : ∀ c ∈ 'h' :: 't' :: 't' :: 'p' :: ':' :: '/' :: '/' :: cs, 0x20 < c.toNat := by
    simp only [List.forall_mem_cons]
    refine ⟨by decide, by decide, by decide, by decide, by decide, by decide, by decide, ?_⟩
    intro c hc
    have := h c hc
    omega
  have hslashes : ('/' :: '/' :: cs).dropWhile (isSlash .web) = cs := by
    obtain ⟨c, rest, rfl⟩ := List.exists_cons_of_ne_nil hne
    have hc := h c List.mem_cons_self
    rw [List.dropWhile_cons_of_pos (by decide), List.dropWhile_cons_of_pos (by decide),
      List.dropWhile_cons_of_neg]
    simp only [isSlash, Bool.or_eq_true, Bool.and_eq_true, decide_eq_true_eq]
    rintro (rfl | ⟨rfl, -⟩) <;> exact absurd hc (by decide)
  have hweb : Kind.ofScheme "http" = .web := by decide
  have hscheme : scheme? ('h' :: 't' :: 't' :: 'p' :: ':' :: '/' :: '/' :: cs) =
      some ("http", '/' :: '/' :: cs) := scheme?_append hweb _
  rw [parse, clean_of_visible hvisible, hscheme]
  dsimp only
  rw [withScheme, hweb]
  dsimp only
  rw [hslashes, afterSlashes_eq, readAuthority_of_nonAscii _ hne h]
  cases namedHost cs <;> rfl

def longLabel : List Char := (List.range' 0x4E00 700 29).map Char.ofNat

def longTarget : String :=
  String.ofList ('h' :: 't' :: 't' :: 'p' :: ':' :: '/' :: '/' :: longLabel)

def longName : List Char := punycodePrefix ++ Punycode.encode longLabel

def longUrl : Url :=
  ⟨"http", some ⟨"", none, some (.domain (String.ofList longName)), none⟩, .segments [""],
    none, none⟩

theorem bounds_of_mem_range {n : Nat} (hn : n ∈ List.range' 0x4E00 700 29) :
    0x4E00 ≤ n ∧ n ≤ 0x9FFF := by
  obtain ⟨i, hi, rfl⟩ := List.mem_range'.1 hn
  omega

theorem isIdeograph_of_mem_longLabel {c : Char} (hc : c ∈ longLabel) : isIdeograph c = true := by
  obtain ⟨n, hn, rfl⟩ := List.mem_map.1 hc
  have := bounds_of_mem_range hn
  rw [isIdeograph, Text.toNat_ofNat (.inl (by omega))]
  simpa using this

theorem points_longLabel : Punycode.points longLabel = List.range' 0x4E00 700 29 := by
  refine Punycode.points_of_ascending (List.pairwise_lt_range' _ (by decide)) fun n hn => ?_
  have := bounds_of_mem_range hn
  exact ⟨.inl (by omega), by rw [Punycode.firstPoint]; omega⟩

/-- Three digits for all but the first of 700 code points come to more than two thousand. -/
theorem length_code_longLabel : maxDecoded < (Punycode.encode longLabel).length := by
  have hspaced : Punycode.Spaced Punycode.firstPoint (Punycode.points longLabel) := by
    have hgap : Punycode.firstPoint + 28 ≤ 0x4E00 := by decide
    rw [points_longLabel]
    exact Punycode.spaced_range' hgap _
  have hlen := Punycode.length_encode hspaced
  rw [points_longLabel, List.length_range'] at hlen
  rw [maxDecoded]
  omega

theorem le_of_mem_longLabel {c : Char} (hc : c ∈ longLabel) : 0x80 ≤ c.toNat := by
  have := (IsIdeograph.bounds (isIdeograph_of_mem_longLabel hc)).1
  omega

theorem dot_not_mem_longName : '.' ∉ longName := by
  intro hm
  rcases List.mem_append.1 hm with hm | hm
  · exact absurd hm (by decide)
  · rcases Punycode.mem_encode hm with ⟨hc, -⟩ | hc | ⟨d, hd, hc⟩
    · exact absurd (le_of_mem_longLabel hc) (by decide)
    · exact absurd hc (by decide)
    · revert d
      decide

theorem endsInNumber_longName : Ipv4.endsInNumber longName = false := by
  have hparts : Ipv4.parts longName = [longName] := by
    rw [Ipv4.parts, splitOn_of_not_mem dot_not_mem_longName]
    rfl
  rw [Ipv4.endsInNumber, hparts]
  rfl

theorem parse_longTarget : parse longTarget = .ok longUrl := by
  have hne : longLabel ≠ [] := List.cons_ne_nil _ _
  have hname : longName ≠ [] := List.cons_ne_nil _ _
  have hascii : domainToAscii? longLabel = some longName :=
    domainToAscii?_of_ideographs (fun c => isIdeograph_of_mem_longLabel) hne
      (by simp [longLabel, maxEncoded])
  have hallowed : ∀ c ∈ longLabel, c ≠ '%' ∧ c ≠ '[' := by
    intro c hc
    have := le_of_mem_longLabel hc
    constructor <;> rintro rfl <;> exact absurd this (by decide)
  rw [longTarget, parse_of_nonAscii hne fun c => le_of_mem_longLabel,
    namedHost_of_allowed hallowed, hascii, hostOfName_some hname, endsInNumber_longName]
  rfl

theorem not_isReadable_longUrl : ¬ longUrl.IsReadable := by
  intro h
  have hlabels : HasReadableLabels longName := by
    have := h _ rfl
    rwa [Host.IsReadable, String.toList_ofList] at this
  have hcode : HasReadableCode longName := by
    refine hlabels longName ?_
    rw [splitOn_of_not_mem dot_not_mem_longName]
    exact List.mem_cons_self
  exact absurd (hcode rfl) (Nat.not_le_of_lt length_code_longLabel)

end Liveness.Url
