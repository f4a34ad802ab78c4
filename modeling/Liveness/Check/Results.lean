import Liveness.Check.Basic
import Liveness.Json.Basic

/-! The outcome of every check of a run: one entry a name, in the order of the names'
bytes. Of several outcomes with one name the last counts. -/

namespace Liveness.Check

open Text

/-- Whether the name `a` is listed before `b`. -/
def nameBefore (a b : String) : Bool := (Utf8.encode a).before (Utf8.encode b)

abbrev Entry := String × Bool

/-- The names ascend, so each occurs once. -/
abbrev Ascending (entries : List Entry) : Prop :=
  entries.Pairwise fun a b => nameBefore a.1 b.1 = true

structure Results where
  entries : List Entry
  ascending : Ascending entries

theorem nameBefore_trans {a b c : String} (hab : nameBefore a b = true)
    (hbc : nameBefore b c = true) : nameBefore a c = true :=
  Bytes.before_trans hab hbc

theorem nameBefore_of_ne {a b : String} (hne : a ≠ b) (h : nameBefore a b = false) :
    nameBefore b a = true :=
  Bytes.before_of_ne (fun e => hne (Utf8.encode_inj e)) h

namespace Results

def empty : Results := ⟨[], .nil⟩

/-- Puts an entry in its place; one of the same name gives way. -/
def insertEntry (name : String) (ok : Bool) : List Entry → List Entry
  | [] => [(name, ok)]
  | (n, b) :: rest =>
    if name = n then (name, ok) :: rest
    else if nameBefore name n then (name, ok) :: (n, b) :: rest
    else (n, b) :: insertEntry name ok rest

theorem fst_mem_insertEntry {name : String} {ok : Bool} {es : List Entry} {e : Entry}
    (h : e ∈ insertEntry name ok es) : e.1 = name ∨ e ∈ es := by
  induction es with
  | nil => simp_all [insertEntry]
  | cons x rest ih =>
    obtain ⟨n, b⟩ := x
    rw [insertEntry] at h
    split at h
    · rcases List.mem_cons.1 h with rfl | h
      · exact .inl rfl
      · exact .inr (List.mem_cons_of_mem _ h)
    · split at h
      · rcases List.mem_cons.1 h with rfl | h
        · exact .inl rfl
        · exact .inr h
      · rcases List.mem_cons.1 h with rfl | h
        · exact .inr List.mem_cons_self
        · exact (ih h).imp_right (List.mem_cons_of_mem _)

theorem insertEntry_ascending {name : String} {ok : Bool} {es : List Entry}
    (h : Ascending es) : Ascending (insertEntry name ok es) := by
  induction es with
  | nil => simp [insertEntry, Ascending]
  | cons x rest ih =>
    obtain ⟨n, b⟩ := x
    rw [Ascending, List.pairwise_cons] at h
    rw [insertEntry]
    split
    · next heq => subst heq; exact List.pairwise_cons.2 h
    · next hne =>
      split
      · next hlt =>
        refine List.pairwise_cons.2 ⟨fun e he => ?_, List.pairwise_cons.2 h⟩
        rcases List.mem_cons.1 he with rfl | he
        · exact hlt
        · exact nameBefore_trans hlt (h.1 e he)
      · next hlt =>
        refine List.pairwise_cons.2 ⟨fun e he => ?_, ih h.2⟩
        rcases fst_mem_insertEntry he with heq | he
        · simpa [heq] using nameBefore_of_ne hne (by simpa using hlt)
        · exact h.1 e he

def insert (r : Results) (name : String) (ok : Bool) : Results :=
  ⟨insertEntry name ok r.entries, insertEntry_ascending r.ascending⟩

def ofList (pairs : List Entry) : Results :=
  pairs.foldl (fun r p => r.insert p.1 p.2) empty

def get? (r : Results) (name : String) : Option Bool :=
  (r.entries.find? fun e => e.1 = name).map (·.2)

def size (r : Results) : Nat := r.entries.length

def isEmpty (r : Results) : Bool := r.entries.isEmpty

/-- At least one check ran and none failed. -/
def passed (r : Results) : Bool := !r.isEmpty && r.entries.all (·.2)

def toJson (r : Results) : Json.Value :=
  .object (r.entries.map fun e => (e.1, .bool e.2))

end Results

/-- Evaluates every check. Without a response every check fails. -/
def evaluate (response : Option Response) (checks : List Check) : Results :=
  Results.ofList (checks.map fun c => (c.name, response.any c.holds))

end Liveness.Check
