import Liveness.Proofs.Url.Host.Domain
import Liveness.Url.Host.Ipv4

/-! Addresses of four bytes are read as they are written. -/

namespace Liveness.Url.Host

theorem digitValue?_digitChar : ∀ d < 16, digitValue? (Nat.digitChar d) = some d := by decide

/-- A number is read back from its digits in any base that has letters enough. -/
theorem number?_toDigits {base : Nat} (hb : 1 < base) (hb' : base ≤ 16) (n : Nat) :
    number? base (Nat.toDigits base n) = some n := by
  have step : ∀ m d : Nat, d < base → ((digitValue? (Nat.digitChar d)).bind fun d =>
      if d < base then some (base * m + d) else none) = some (base * m + d) := by
    intro m d hd
    rw [digitValue?_digitChar d (by omega), Option.bind_some, if_pos hd]
  induction n using Nat.strongRecOn with
  | _ n ih =>
    rw [Nat.toDigits_eq_if hb]
    split
    · next hn => simpa [number?] using step 0 n hn
    · next hn =>
      have hlt : n / base < n := Nat.div_lt_self (by omega) hb
      have hmod := Nat.mod_lt n (show 0 < base by omega)
      rw [number?, List.foldlM_append, ← number?, ih _ hlt]
      simp only [Option.bind_eq_bind, Option.bind_some, List.foldlM_cons, List.foldlM_nil,
        step _ _ hmod, Nat.div_add_mod]
      rfl

namespace Ipv4

theorem part?_toDigits : ∀ m < 256, part? (Nat.toDigits 10 m) = some m := by
  decide +kernel

/-- The numbers that an address is written with. -/
def bytes (a : UInt32) : List Nat :=
  [a.toNat >>> 24, a.toNat >>> 16 % 256, a.toNat >>> 8 % 256, a.toNat % 256]

theorem print_eq (a : UInt32) : print a = joinWith '.' ((bytes a).map (Nat.toDigits 10)) := rfl

theorem bytes_lt {a : UInt32} {m : Nat} (hm : m ∈ bytes a) : m < 256 := by
  have ha := a.toNat_lt
  simp only [bytes, Nat.shiftRight_eq_div_pow, List.mem_cons, List.not_mem_nil, or_false] at hm
  omega

theorem ofNumbers?_bytes (a : UInt32) : ofNumbers? (bytes a) = some a.toNat := by
  have ha := a.toNat_lt
  have hlt : a.toNat >>> 24 < 256 := bytes_lt (a := a) List.mem_cons_self
  rw [bytes, ofNumbers?, if_pos]
  · simp only [Nat.shiftRight_eq_div_pow, Nat.shiftLeft_eq, Option.some_inj]
    omega
  · simp only [Nat.shiftRight_eq_div_pow, Nat.shiftLeft_eq, Bool.and_eq_true,
      decide_eq_true_eq] at hlt ⊢
    omega

theorem isPlain_of_digit {c : Char} (h : c.isDigit = true) : IsPlain c := by
  have hlt : c.toNat < 0x80 := by
    simp only [Char.isDigit, Bool.and_eq_true, decide_eq_true_eq, UInt32.le_iff_toNat_le] at h
    exact Nat.lt_of_le_of_lt h.2 (by decide)
  have key : ∀ n < 0x80, (Char.ofNat n).isDigit = true →
      isForbidden (Char.ofNat n) = false ∧ Char.ofNat n ≠ '.' := by decide
  obtain ⟨hallowed, hdot⟩ := Text.forall_char_lt
    (P := fun c => c.isDigit = true → isForbidden c = false ∧ c ≠ '.') key c hlt h
  exact ⟨hlt, hallowed, hdot⟩

theorem isDigit_of_mem_part {a : UInt32} {ds : List Char}
    (hds : ds ∈ (bytes a).map (Nat.toDigits 10)) {c : Char} (hc : c ∈ ds) : c.isDigit = true := by
  obtain ⟨m, -, rfl⟩ := List.mem_map.1 hds
  exact Nat.isDigit_of_mem_toDigits (by decide) (by decide) hc

theorem splitOn_print (a : UInt32) :
    splitOn '.' (print a) = (bytes a).map (Nat.toDigits 10) := by
  refine splitOn_joinWith (by simp) fun ds hds hdot => ?_
  exact absurd (isDigit_of_mem_part hds hdot) (by decide)

theorem parts_print (a : UInt32) : parts (print a) = (bytes a).map (Nat.toDigits 10) := by
  have hne : ((bytes a).map (Nat.toDigits 10)).getLast? ≠ some [] := by
    simp [bytes, Nat.toDigits_ne_nil]
  rw [parts, splitOn_print]
  exact if_neg hne

theorem endsInNumber_print (a : UInt32) : endsInNumber (print a) = true := by
  have hlast : (parts (print a)).getLast? = some (Nat.toDigits 10 (a.toNat % 256)) := by
    rw [parts_print]
    rfl
  rw [endsInNumber, hlast]
  simp only [part?_toDigits _ (Nat.mod_lt _ (by decide)), Option.isSome_some, Bool.or_true]

theorem parse?_print (a : UInt32) : parse? (print a) = some a := by
  have hback : ((bytes a).map (Nat.toDigits 10)).mapM part? = some (bytes a) := by
    rw [List.mapM_map, mapM_eq_some_iff, List.forall₂_same]
    exact fun m hm => part?_toDigits m (bytes_lt hm)
  rw [parse?, parts_print, hback, Option.bind_some, ofNumbers?_bytes, Option.map_some]
  simp

/-- As a name an address is its own ASCII form. -/
theorem domainToAscii?_print (a : UInt32) : domainToAscii? (print a) = some (print a) := by
  rw [print_eq]
  refine domainToAscii?_of_plain (by simp [bytes])
    (fun ds hds c hc => isPlain_of_digit (isDigit_of_mem_part hds hc)) fun ds hds hcode => ?_
  have hx : 'x' ∈ ds := List.mem_of_mem_take (hcode ▸ (by decide : 'x' ∈ punycodePrefix))
  exact absurd (isDigit_of_mem_part hds hx) (by decide)

end Ipv4

end Liveness.Url.Host
