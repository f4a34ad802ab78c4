import Liveness.Text.Utf8

/-! Reading from a connection, on which more bytes may come. -/

namespace Liveness.Http

open Text

/-- What a reader makes of the bytes so far. -/
inductive Reading (ε α : Type) where
  | done (value : α) (rest : Bytes)
  /-- More bytes are needed; `ifEnds` is what is wrong if none come. -/
  | more (ifEnds : ε)
  | failed (fault : ε)

namespace Reading

variable {ε ε' α β : Type}

def map (f : α → β) : Reading ε α → Reading ε β
  | done a rest => done (f a) rest
  | more e => more e
  | failed e => failed e

def bind (r : Reading ε α) (k : α → Bytes → Reading ε β) : Reading ε β :=
  match r with
  | done a rest => k a rest
  | more e => more e
  | failed e => failed e

def isMore : Reading ε α → Bool
  | more _ => true
  | _ => false

/-- At most `n` bytes are left when a value has been read. -/
def Leaves (n : Nat) (r : Reading ε α) : Prop := ∀ a rest, r = done a rest → rest.length ≤ n

theorem Leaves.more (n : Nat) (e : ε) : Leaves n (.more e : Reading ε α) := by
  intro _ _ h
  simp at h

theorem Leaves.failed (n : Nat) (e : ε) : Leaves n (.failed e : Reading ε α) := by
  intro _ _ h
  simp at h

theorem Leaves.done {n : Nat} {a : α} {rest : Bytes} (h : rest.length ≤ n) :
    Leaves n (.done a rest : Reading ε α) := by
  intro _ _ hd
  injection hd with _ hd
  exact hd ▸ h

theorem Leaves.bind {n m : Nat} {r : Reading ε α} {k : α → Bytes → Reading ε β}
    (hr : Leaves n r) (hk : ∀ a rest, rest.length ≤ n → Leaves m (k a rest)) :
    Leaves m (r.bind k) := by
  cases r with
  | done a rest => exact hk a rest (hr a rest rfl)
  | more e => exact .more m e
  | failed e => exact .failed m e

theorem Leaves.map {n : Nat} {r : Reading ε α} {f : α → β} (hr : Leaves n r) :
    Leaves n (r.map f) := by
  cases r with
  | done a rest => exact .done (hr a rest rfl)
  | more e => exact .more n e
  | failed e => exact .failed n e

theorem Leaves.mono {n m : Nat} {r : Reading ε α} (hr : Leaves n r) (h : n ≤ m) : Leaves m r :=
  fun a rest hd => Nat.le_trans (hr a rest hd) h

end Reading

end Liveness.Http
