import Liveness.Proofs.Json.Meanings
import Liveness.Proofs.Json.Written

/-! The two layouts, without any space and with one part a line. Both put blanks in front of
each part and behind the last one, or none at all, so that either is a document that says the
value that it was written for. -/

namespace Liveness.Json

variable {α β : Type} {b : Bracket} {front back gap w w' : List Char}

/-- Parts with commas between them, blanks in front of each and others behind the last. -/
def laid (front back : List Char) : List (List Char) → List Char
  | [] => []
  | [e] => front ++ (e ++ back)
  | e :: es => front ++ (e ++ ',' :: laid front back es)

/-- A member with blanks behind its colon. -/
def memberText (gap : List Char) (text : Value → List Char) (m : String × Value) : List Char :=
  quote m.1 ++ ':' :: (gap ++ text m.2)

theorem compactItems_eq : ∀ items : List Value,
    compactItems items = laid [] [] (items.map compact) ++ [']']
  | [] => rfl
  | [v] => by simp [compactItems, laid]
  | v :: v' :: vs => by simp [compactItems, laid, compactItems_eq (v' :: vs)]

theorem compactMembers_eq : ∀ members : List (String × Value),
    compactMembers members = laid [] [] (members.map (memberText [] compact)) ++ ['\x7d']
  | [] => rfl
  | [(k, v)] => by simp [compactMembers, laid, memberText]
  | (k, v) :: m :: ms => by simp [compactMembers, laid, memberText, compactMembers_eq (m :: ms)]

theorem prettyItems_eq (depth : Nat) : ∀ items : List Value, prettyItems depth items =
    laid (newline (depth + 1)) (newline depth) (items.map (prettyAt (depth + 1))) ++ [']']
  | [] => rfl
  | [v] => by simp [prettyItems, laid]
  | v :: v' :: vs => by simp [prettyItems, laid, prettyItems_eq depth (v' :: vs)]

theorem prettyMembers_eq (depth : Nat) : ∀ members : List (String × Value),
    prettyMembers depth members = laid (newline (depth + 1)) (newline depth)
      (members.map (memberText [' '] (prettyAt (depth + 1)))) ++ ['\x7d']
  | [] => rfl
  | [(k, v)] => by simp [prettyMembers, laid, memberText]
  | (k, v) :: m :: ms => by
    simp [prettyMembers, laid, memberText, prettyMembers_eq depth (m :: ms)]

theorem prettyAt_array (depth : Nat) (items : List Value) : prettyAt depth (.array items) =
    '[' :: (laid (newline (depth + 1)) (newline depth) (items.map (prettyAt (depth + 1))) ++
      [']']) := by
  cases items with
  | nil => rfl
  | cons v vs => rw [prettyAt, prettyItems_eq]

theorem prettyAt_object (depth : Nat) (members : List (String × Value)) :
    prettyAt depth (.object members) =
      '\x7b' :: (laid (newline (depth + 1)) (newline depth)
        (members.map (memberText [' '] (prettyAt (depth + 1)))) ++ ['\x7d']) := by
  cases members with
  | nil => rfl
  | cons m ms => rw [prettyAt, prettyMembers_eq]

theorem blanks_newline (depth : Nat) : Blanks (newline depth) := by
  intro c hc
  rw [newline, List.mem_cons, List.mem_replicate] at hc
  rcases hc with rfl | ⟨-, rfl⟩ <;> simp

section

variable {Part : α → List Char → Prop} {xs : List β} {f : β → α} {text : β → List Char}

theorem separated_laid (hf : Blanks front) (hb : Blanks back)
    (h : ∀ x ∈ xs, ∀ {w w'}, Blanks w → Blanks w' → Part (f x) (w ++ (text x ++ w')))
    (hne : xs ≠ []) : Separated Part (xs.map f) (laid front back (xs.map text)) := by
  induction xs with
  | nil => exact absurd rfl hne
  | cons x xs ih =>
    cases xs with
    | nil => exact .one (h x List.mem_cons_self hf hb)
    | cons y ys =>
      have hx := h x List.mem_cons_self hf Blanks.nil
      have hrest := ih (fun z hz => h z (List.mem_cons_of_mem _ hz)) (List.cons_ne_nil y ys)
      have hall := Separated.more hx hrest
      rw [List.append_nil, List.append_assoc] at hall
      exact hall

/-- Laid out between their brackets, parts are a value, and the list or object of them. -/
theorem bracketed_laid (hp : AreParts b Part) (hf : Blanks front) (hb : Blanks back)
    (h : ∀ x ∈ xs, ∀ {w w'}, Blanks w → Blanks w' → Part (f x) (w ++ (text x ++ w'))) :
    IsValue (b.opening :: (laid front back (xs.map text) ++ [b.closing])) ∧
      Bracketed b Part (xs.map f)
        (b.opening :: (laid front back (xs.map text) ++ [b.closing])) := by
  rcases eq_or_ne xs [] with rfl | hne
  · exact ⟨.empty Blanks.nil, .empty Blanks.nil Blanks.nil Blanks.nil⟩
  · have hparts := separated_laid hf hb h hne
    exact ⟨.filled (wf_of_separated hp hparts), .filled Blanks.nil hparts Blanks.nil⟩

end

/-- A list that is laid out stands for the list of what its items stand for. -/
theorem denotes_array {items : List Value} {text : Value → List Char} (hf : Blanks front)
    (hb : Blanks back) (h : ∀ v ∈ items, Denotes v (text v)) :
    Denotes (.array items) ('[' :: (laid front back (items.map text) ++ [']'])) := by
  have hparts := bracketed_laid (f := text) areParts_isItem hf hb fun v hv w w' hw hw' =>
    .mk hw (h v hv).isValue hw'
  have harray := @Denotes.array (items.map fun v => (v, text v)) _ hparts.1
    (by rw [List.map_map]; exact hparts.2) (List.forall_mem_map.2 h)
  simp only [List.map_map, Function.comp_def, List.map_id'] at harray
  exact harray

theorem isMember_memberText {m : String × Value} {text : Value → List Char} (hg : Blanks gap)
    (hv : IsValue (text m.2)) (hw : Blanks w) (hw' : Blanks w') :
    IsMember (m.1, text m.2) (w ++ (memberText gap text m ++ w')) := by
  have hmember := IsMember.mk hw (spells_escape m.1.toList) Blanks.nil hg hv hw'
  simpa [memberText, quote] using hmember

theorem denotes_object {members : List (String × Value)} {text : Value → List Char}
    (hf : Blanks front) (hb : Blanks back) (hg : Blanks gap)
    (h : ∀ m ∈ members, Denotes m.2 (text m.2)) :
    Denotes (.object members)
      ('\x7b' :: (laid front back (members.map (memberText gap text)) ++ ['\x7d'])) := by
  have hparts := bracketed_laid areParts_isMember hf hb fun m hm w w' hw hw' =>
    isMember_memberText hg (h m hm).isValue hw hw'
  have hobject := @Denotes.object (members.map fun m => (m.1, m.2, text m.2)) _ hparts.1
    (by rw [List.map_map]; exact hparts.2) (List.forall_mem_map.2 h)
  simp only [List.map_map, Function.comp_def, List.map_id'] at hobject
  exact hobject

/-- An induction over a value whose parts are smaller values. -/
theorem Value.induct {P : Value → Prop} (null : P .null) (bool : ∀ b, P (.bool b))
    (number : ∀ n, P (.number n)) (string : ∀ s, P (.string s))
    (array : ∀ items, (∀ v ∈ items, P v) → P (.array items))
    (object : ∀ members, (∀ m ∈ members, P m.2) → P (.object members)) : ∀ v, P v
  | .null => null
  | .bool b => bool b
  | .number n => number n
  | .string s => string s
  | .array items => array items fun v hv =>
    have : sizeOf v < sizeOf items := List.sizeOf_lt_of_mem hv
    Value.induct null bool number string array object v
  | .object members => object members fun m hm =>
    have : sizeOf m.2 < sizeOf members :=
      Nat.lt_of_le_of_lt (by obtain ⟨k, v⟩ := m; simp) (List.sizeOf_lt_of_mem hm)
    Value.induct null bool number string array object m.2

theorem denotes_literal (b : Bool) : Denotes (.bool b) (literal b) := by
  cases b with
  | true => exact .true
  | false => exact .false

theorem denotes_compact (v : Value) : Denotes v (compact v) := by
  induction v using Value.induct with
  | null => exact .null
  | bool b => exact denotes_literal b
  | number n => exact .number n
  | string s => exact .string (isText_quote s)
  | array items ih =>
    rw [compact, compactItems_eq]
    exact denotes_array Blanks.nil Blanks.nil ih
  | object members ih =>
    rw [compact, compactMembers_eq]
    exact denotes_object Blanks.nil Blanks.nil Blanks.nil ih

/-- The members of an object have the texts that their values have by themselves. -/
theorem isObject_compact (members : List (String × Value)) :
    IsObject (members.map fun m => (m.1, compact m.2)) (compact (.object members)) := by
  rw [compact, compactMembers_eq]
  exact (bracketed_laid areParts_isMember Blanks.nil Blanks.nil fun m _ w w' hw hw' =>
    isMember_memberText Blanks.nil (denotes_compact m.2).isValue hw hw').2

theorem denotes_prettyAt (depth : Nat) (v : Value) : Denotes v (prettyAt depth v) := by
  induction v using Value.induct generalizing depth with
  | null => exact .null
  | bool b => exact denotes_literal b
  | number n => exact .number n
  | string s => exact .string (isText_quote s)
  | array items ih =>
    rw [prettyAt_array]
    exact denotes_array (blanks_newline _) (blanks_newline _) fun v hv => ih v hv _
  | object members ih =>
    have hgap : Blanks [' '] := by simp [Blanks]
    rw [prettyAt_object]
    exact denotes_object (blanks_newline _) (blanks_newline _) hgap fun m hm => ih m hm _

section

variable {a a' : Value} {v : Value} {text : String}

theorem isDocument_of_denotes {cs : List Char} (h : Denotes a cs) (hw : Blanks w)
    (htext : text.toList = cs ++ w) : IsDocument a text :=
  ⟨[], cs, w, htext, Blanks.nil, h, hw⟩

theorem isDocument_compact (v : Value) : IsDocument v v.compact :=
  isDocument_of_denotes (denotes_compact v) Blanks.nil (by simp [Value.compact])

theorem isDocument_pretty (v : Value) : IsDocument v v.pretty :=
  isDocument_of_denotes (denotes_prettyAt 0 v) Blanks.nil (by simp [Value.pretty])

example : (Value.object [("a\"", .array [.number 10, .null]), ("", .object [])]).pretty =
    "\x7b\n  \"a\\\"\": [\n    10,\n    null\n  ],\n  \"\": \x7b\x7d\n\x7d" := rfl

/-- Printed with a line break behind it, a document stays one. -/
theorem isDocument_pretty_line (v : Value) : IsDocument v (v.pretty ++ "\n") :=
  isDocument_of_denotes (w := ['\n']) (denotes_prettyAt 0 v) (by simp [Blanks])
    (by simp [Value.pretty])

theorem isDocument_iff (h : IsDocument a text) : IsDocument v text ↔ v = a :=
  ⟨fun hv => hv.unique h, fun hv => hv ▸ h⟩

theorem Value.compact_inj : a.compact = a'.compact ↔ a = a' :=
  ⟨fun h => (isDocument_compact a).unique (h ▸ isDocument_compact a'), fun h => h ▸ rfl⟩

theorem Value.pretty_inj : a.pretty = a'.pretty ↔ a = a' :=
  ⟨fun h => (isDocument_pretty a).unique (h ▸ isDocument_pretty a'), fun h => h ▸ rfl⟩

end

end Liveness.Json
