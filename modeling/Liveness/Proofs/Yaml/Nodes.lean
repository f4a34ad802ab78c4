import Mathlib.Data.List.Forall2
import Liveness.Proofs.Yaml.Tokens
import Liveness.Yaml.Document

/-! JSON texts as YAML: their nodes. An array is a sequence and an object a mapping; words are
plain scalars and strings double-quoted ones, without anchors and tags, and the text is the only
document of its stream. -/

namespace Liveness.Yaml

open Liveness.Json (Value)

mutual

/-- The nodes of a value, in the order of its text. -/
def items : Value → List Item
  | .null => [.scalar none ['n', 'u', 'l', 'l'] .plain]
  | .bool b => [.scalar none (Json.literal b) .plain]
  | .number n => [.scalar none (Json.decimal n) .plain]
  | .string s => [.scalar none s.toList .double]
  | .array vs => .sequenceStart :: entryItems vs
  | .object ms => .mappingStart :: memberItems ms

def entryItems : List Value → List Item
  | [] => [.sequenceEnd]
  | v :: vs => items v ++ entryItems vs

def memberItems : List (String × Value) → List Item
  | [] => [.mappingEnd]
  | (k, v) :: ms => .scalar none k.toList .double :: (items v ++ memberItems ms)

end

/-- An event that adds a node to its document, and does nothing else. -/
def Event.Adds (e : Event) (i : Item) : Prop :=
  ∀ problem a place es, Document.ofEvents problem a place (e :: es) =
    Document.prepend ⟨i, e.mark⟩ (Document.ofEvents problem a (place + 1) es)

theorem adds_scalar (text : List Char) (style : Style) (m : Mark) :
    Event.Adds ⟨.scalar .none text style, m⟩ (.scalar none text style) := fun _ _ _ _ => rfl

theorem adds_sequenceStart (m : Mark) : Event.Adds ⟨.sequenceStart .none, m⟩ .sequenceStart :=
  fun _ _ _ _ => rfl

theorem adds_sequenceEnd (m : Mark) : Event.Adds ⟨.sequenceEnd, m⟩ .sequenceEnd :=
  fun _ _ _ _ => rfl

theorem adds_mappingStart (m : Mark) : Event.Adds ⟨.mappingStart .none, m⟩ .mappingStart :=
  fun _ _ _ _ => rfl

theorem adds_mappingEnd (m : Mark) : Event.Adds ⟨.mappingEnd, m⟩ .mappingEnd :=
  fun _ _ _ _ => rfl

theorem ofEvents_append {es : List Event} {is : List Item} (h : List.Forall₂ Event.Adds es is)
    (problem : Option Error) (a : Anchors) (place : Nat) (later : List Event) :
    ∃ nodes : List Node, nodes.map Node.item = is ∧
      Document.ofEvents problem a place (es ++ later) =
        let d := Document.ofEvents problem a (place + es.length) later
        { d with nodes := nodes ++ d.nodes } := by
  induction h generalizing place with
  | nil => exact ⟨[], rfl, rfl⟩
  | @cons e i es is he _ ih =>
    obtain ⟨nodes, hnodes, hrest⟩ := ih (place + 1)
    refine ⟨⟨i, e.mark⟩ :: nodes, by simp [hnodes], ?_⟩
    rw [List.cons_append, he, hrest, List.length_cons, Nat.add_right_comm, Nat.add_assoc]
    rfl

variable {handles : Handles} {g next : Goal} {gs gs' gs'' : List Goal}
variable {ts ts' ts'' rest : List Token} {is is' : List Item} {t : Token} {start : Mark}

theorem ofGoals_cons {s : Step} (h : g.step handles ts = .ok s) :
    Event.ofGoals handles (g :: gs) ts =
      (s.event :: (Event.ofGoals s.handles (s.goals ++ gs) s.tokens).1,
        (Event.ofGoals s.handles (s.goals ++ gs) s.tokens).2) := by
  rw [Event.ofGoals]
  split
  · next h' => cases h.symm.trans h'
  · next h' =>
    cases h.symm.trans h'
    rfl

theorem ofGoals_error {e : Halt} (h : g.step handles ts = .error e) :
    Event.ofGoals handles (g :: gs) ts = ([], some e) := by
  rw [Event.ofGoals]
  split
  · next h' =>
    cases h.symm.trans h'
    rfl
  · next h' => cases h.symm.trans h'

/-- Goals and tokens give events that add the given nodes, and then what other goals give for
the tokens that are left. -/
def Yields (handles : Handles) (gs : List Goal) (ts : List Token) (is : List Item)
    (gs' : List Goal) (ts' : List Token) : Prop :=
  ∃ es, List.Forall₂ Event.Adds es is ∧ Event.ofGoals handles gs ts =
    (es ++ (Event.ofGoals handles gs' ts').1, (Event.ofGoals handles gs' ts').2)

theorem Yields.refl (handles : Handles) (gs : List Goal) (ts : List Token) :
    Yields handles gs ts [] gs ts := ⟨[], .nil, rfl⟩

theorem Yields.trans (h : Yields handles gs ts is gs' ts')
    (h' : Yields handles gs' ts' is' gs'' ts'') : Yields handles gs ts (is ++ is') gs'' ts'' := by
  obtain ⟨es, hes, heq⟩ := h
  obtain ⟨es', hes', heq'⟩ := h'
  refine ⟨es ++ es', List.rel_append hes hes', ?_⟩
  rw [heq, heq', List.append_assoc]

theorem yields_of_step {s : Step} {i : Item} (h : g.step handles ts = .ok s)
    (hhandles : s.handles = handles) (hevent : s.event.Adds i)
    (hrest : Yields handles (s.goals ++ gs) s.tokens is gs' ts') :
    Yields handles (g :: gs) ts (i :: is) gs' ts' := by
  obtain ⟨es, hes, heq⟩ := hrest
  refine ⟨s.event :: es, .cons hevent hes, ?_⟩
  rw [ofGoals_cons h, hhandles, heq]
  rfl

theorem Yields.congr {g' : Goal} (h : Yields handles (g' :: gs) ts' is gs' ts'')
    (hstep : g.step handles ts = g'.step handles ts') :
    Yields handles (g :: gs) ts is gs' ts'' := by
  have heq : Event.ofGoals handles (g :: gs) ts = Event.ofGoals handles (g' :: gs) ts' := by
    cases hs : g'.step handles ts' with
    | error e => rw [ofGoals_error hs, ofGoals_error (hstep.trans hs)]
    | ok s => rw [ofGoals_cons hs, ofGoals_cons (hstep.trans hs)]
  rw [Yields, heq]
  exact h

/-- A step that begins a node; the events to come complete it in front of `rest`. -/
def Begins (r : Except Halt Step) (handles : Handles) (is : List Item) (rest : List Token) :
    Prop :=
  ∃ s, r = .ok s ∧ s.handles = handles ∧ ∃ i is', is = i :: is' ∧ s.event.Adds i ∧
    ∀ gs, Yields handles (s.goals ++ gs) s.tokens is' gs rest

theorem Begins.yields {r : Except Halt Step} (h : Begins r handles is rest)
    (hstep : g.step handles ts = Step.before r next) :
    Yields handles (g :: gs) ts is (next :: gs) rest := by
  obtain ⟨s, rfl, hhandles, i, is', rfl, hevent, hrest⟩ := h
  refine yields_of_step hstep hhandles hevent ?_
  rw [List.append_assoc]
  exact hrest _

theorem Begins.yields_root {r : Except Halt Step} (h : Begins r handles is rest)
    (hstep : g.step handles ts = r) : Yields handles (g :: gs) ts is gs rest := by
  obtain ⟨s, rfl, hhandles, i, is', rfl, hevent, hrest⟩ := h
  exact yields_of_step hstep hhandles hevent (hrest gs)

/-- Wherever a node is wanted, the tokens of a value give the nodes of the value. -/
def Composes (v : Value) : Prop :=
  ∀ {handles : Handles} {inBlock : Bool} {ts rest : List Token}, ts.map Token.symbol = symbols v →
    Begins (Step.node handles inBlock false (ts ++ rest)) handles (items v) rest

theorem composes_scalar {v : Value} {text : List Char} {style : Style}
    (hsymbols : symbols v = [.scalar text style]) (hitems : items v = [.scalar none text style]) :
    Composes v := by
  intro handles inBlock ts rest h
  rw [hsymbols] at h
  obtain ⟨⟨symbol, m, m'⟩, rfl, hsymbol⟩ := List.map_eq_singleton_iff.1 h
  cases hsymbol
  exact ⟨_, rfl, rfl, _, _, hitems, adds_scalar text style m, fun gs => Yields.refl _ _ _⟩

/-- Tokens with which values begin. -/
inductive Opens : Symbol → Prop
  | scalar (text : List Char) (style : Style) : Opens (.scalar text style)
  | sequence : Opens .flowSequenceStart
  | mapping : Opens .flowMappingStart

theorem opens_of_symbols {v : Value} (h : ts.map Token.symbol = symbols v) :
    ∃ t ts', ts = t :: ts' ∧ Opens t.symbol := by
  have hhead : ∃ a as, symbols v = a :: as ∧ Opens a := by
    cases v with
    | null => exact ⟨_, _, rfl, .scalar _ _⟩
    | bool b => exact ⟨_, _, rfl, .scalar _ _⟩
    | number n => exact ⟨_, _, rfl, .scalar _ _⟩
    | string s => exact ⟨_, _, rfl, .scalar _ _⟩
    | array items => exact ⟨_, _, rfl, .sequence⟩
    | object members => exact ⟨_, _, rfl, .mapping⟩
  obtain ⟨a, as, has, ha⟩ := hhead
  rw [has] at h
  obtain ⟨t, ts', rfl, rfl, -⟩ := List.map_eq_cons_iff.1 h
  exact ⟨t, ts', rfl, ha⟩

theorem step_entry (h : Opens t.symbol) :
    Goal.step handles (.flowEntry start true) (t :: ts) =
      Step.before (Step.node handles false false (t :: ts)) (.flowEntry start false) := by
  obtain ⟨symbol, m, m'⟩ := t
  cases h <;> rfl

theorem step_sequenceEnd (first : Bool) (h : t.symbol = .flowSequenceEnd) :
    Goal.step handles (.flowEntry start first) (t :: ts) =
      .ok ⟨⟨.sequenceEnd, t.start⟩, [], ts, handles⟩ := by
  obtain ⟨symbol, m, m'⟩ := t
  cases h
  cases first <;> rfl

theorem yields_sequenceEnd (first : Bool) (h : t.symbol = .flowSequenceEnd) :
    Yields handles (.flowEntry start first :: gs) (t :: rest) [.sequenceEnd] gs rest :=
  yields_of_step (step_sequenceEnd first h) rfl (adds_sequenceEnd _) (Yields.refl _ _ _)

/-- Behind a comma a sequence goes on as it began. -/
theorem step_nextEntry (h : t.symbol = .flowEntry) :
    Goal.step handles (.flowEntry start false) (t :: ts) =
      Goal.step handles (.flowEntry start true) ts := by
  obtain ⟨symbol, m, m'⟩ := t
  cases h
  cases ts <;> rfl

theorem yields_entries {vs : List Value} (hvs : ∀ v ∈ vs, Composes v)
    (h : ts.map Token.symbol = itemSymbols vs) :
    Yields handles (.flowEntry start true :: gs) (ts ++ rest) (entryItems vs) gs rest := by
  induction vs generalizing ts with
  | nil =>
    obtain ⟨t, rfl, ht⟩ := List.map_eq_singleton_iff.1 h
    exact yields_sequenceEnd true ht
  | cons v vs ih =>
    obtain ⟨hv, hvs⟩ := List.forall_mem_cons.1 hvs
    cases vs with
    | nil =>
      obtain ⟨tv, te, rfl, htv, hte⟩ := List.map_eq_append_iff.1 h
      obtain ⟨t, rfl, ht⟩ := List.map_eq_singleton_iff.1 hte
      obtain ⟨u, us, rfl, hu⟩ := opens_of_symbols htv
      rw [List.append_assoc]
      exact ((hv htv).yields (step_entry hu)).trans (yields_sequenceEnd false ht)
    | cons w vs =>
      simp only [itemSymbols] at h
      obtain ⟨tv, te, rfl, htv, hte⟩ := List.map_eq_append_iff.1 h
      obtain ⟨t, te, rfl, ht, hte⟩ := List.map_eq_cons_iff.1 hte
      obtain ⟨u, us, rfl, hu⟩ := opens_of_symbols htv
      rw [List.append_assoc]
      refine ((hv htv).yields (step_entry hu)).trans ?_
      exact (ih hvs hte).congr (step_nextEntry ht)

theorem step_key {k : List Char} {style : Style} {u : Token} (ht : t.symbol = .key)
    (hu : u.symbol = .scalar k style) :
    Goal.step handles (.flowKey start true) (t :: u :: ts) =
      .ok ⟨⟨.scalar .none k style, u.start⟩, [.flowValue start], ts, handles⟩ := by
  obtain ⟨symbol, m, m'⟩ := t
  cases ht
  obtain ⟨symbol, m, m'⟩ := u
  cases hu
  rfl

theorem step_value {u : Token} (ht : t.symbol = .value) (hu : Opens u.symbol) :
    Goal.step handles (.flowValue start) (t :: u :: ts) =
      Step.before (Step.node handles false false (u :: ts)) (.flowKey start false) := by
  obtain ⟨symbol, m, m'⟩ := t
  cases ht
  obtain ⟨symbol, m, m'⟩ := u
  cases hu <;> rfl

theorem step_mappingEnd (first : Bool) (h : t.symbol = .flowMappingEnd) :
    Goal.step handles (.flowKey start first) (t :: ts) =
      .ok ⟨⟨.mappingEnd, t.start⟩, [], ts, handles⟩ := by
  obtain ⟨symbol, m, m'⟩ := t
  cases h
  cases first <;> rfl

theorem yields_mappingEnd (first : Bool) (h : t.symbol = .flowMappingEnd) :
    Yields handles (.flowKey start first :: gs) (t :: rest) [.mappingEnd] gs rest :=
  yields_of_step (step_mappingEnd first h) rfl (adds_mappingEnd _) (Yields.refl _ _ _)

/-- Behind a comma a mapping goes on as it began. -/
theorem step_nextKey (h : t.symbol = .flowEntry) :
    Goal.step handles (.flowKey start false) (t :: ts) =
      Goal.step handles (.flowKey start true) ts := by
  obtain ⟨symbol, m, m'⟩ := t
  cases h
  cases ts <;> rfl

/-- A member up to the comma or the end behind it. -/
theorem yields_member {k : String} {v : Value} (hv : Composes v)
    (h : ts.map Token.symbol = .key :: .scalar k.toList .double :: .value :: symbols v) :
    Yields handles (.flowKey start true :: gs) (ts ++ rest)
      (.scalar none k.toList .double :: items v) (.flowKey start false :: gs) rest := by
  obtain ⟨key, ts, rfl, hkey, h⟩ := List.map_eq_cons_iff.1 h
  obtain ⟨name, ts, rfl, hname, h⟩ := List.map_eq_cons_iff.1 h
  obtain ⟨value, tv, rfl, hvalue, htv⟩ := List.map_eq_cons_iff.1 h
  obtain ⟨u, us, rfl, hu⟩ := opens_of_symbols htv
  refine yields_of_step (step_key hkey hname) rfl (adds_scalar _ _ _) ?_
  exact (hv htv).yields (step_value hvalue hu)

theorem yields_members {ms : List (String × Value)} (hms : ∀ p ∈ ms, Composes p.2)
    (h : ts.map Token.symbol = memberSymbols ms) :
    Yields handles (.flowKey start true :: gs) (ts ++ rest) (memberItems ms) gs rest := by
  induction ms generalizing ts with
  | nil =>
    obtain ⟨t, rfl, ht⟩ := List.map_eq_singleton_iff.1 h
    exact yields_mappingEnd true ht
  | cons p ms ih =>
    obtain ⟨k, v⟩ := p
    obtain ⟨hv, hms⟩ := List.forall_mem_cons.1 hms
    cases ms with
    | nil =>
      rw [memberSymbols, ← List.cons_append, ← List.cons_append, ← List.cons_append] at h
      obtain ⟨tm, te, rfl, htm, hte⟩ := List.map_eq_append_iff.1 h
      obtain ⟨t, rfl, ht⟩ := List.map_eq_singleton_iff.1 hte
      rw [List.append_assoc]
      exact (yields_member hv htm).trans (yields_mappingEnd false ht)
    | cons m ms =>
      simp only [memberSymbols] at h
      rw [← List.cons_append, ← List.cons_append, ← List.cons_append] at h
      obtain ⟨tm, te, rfl, htm, hte⟩ := List.map_eq_append_iff.1 h
      obtain ⟨t, te, rfl, ht, hte⟩ := List.map_eq_cons_iff.1 hte
      rw [List.append_assoc]
      refine (yields_member hv htm).trans ?_
      exact (ih hms hte).congr (step_nextKey ht)

theorem composes_of_isShared {v : Value} (hv : IsShared v) : Composes v := by
  induction hv with
  | null => exact composes_scalar rfl rfl
  | bool b => exact composes_scalar rfl rfl
  | number n => exact composes_scalar rfl rfl
  | string _ => exact composes_scalar rfl rfl
  | array _ ih =>
    intro handles inBlock ts rest h
    obtain ⟨⟨symbol, m, m'⟩, ts, rfl, hsymbol, hts⟩ := List.map_eq_cons_iff.1 h
    cases hsymbol
    exact ⟨_, rfl, rfl, _, _, rfl, adds_sequenceStart m, fun gs => yields_entries ih hts⟩
  | object _ _ _ ih =>
    intro handles inBlock ts rest h
    obtain ⟨⟨symbol, m, m'⟩, ts, rfl, hsymbol, hts⟩ := List.map_eq_cons_iff.1 h
    cases hsymbol
    exact ⟨_, rfl, rfl, _, _, rfl, adds_mappingStart m, fun gs => yields_members ih hts⟩

theorem step_document (h : Opens t.symbol) :
    Goal.step handles (.document true) (t :: ts) = .ok ⟨⟨.documentStart, t.start⟩,
      [.root false, .documentEnd], t :: ts, Step.standardHandles⟩ := by
  obtain ⟨symbol, m, m'⟩ := t
  cases h <;> rfl

/-- What is left when the only node of a document has been read. -/
theorem ofGoals_documentEnd (h : t.symbol = .streamEnd) :
    Event.ofGoals handles [.documentEnd] [t] =
      ([⟨.documentEnd, t.start⟩, ⟨.streamEnd, t.start⟩], none) := by
  obtain ⟨symbol, m, m'⟩ := t
  cases h
  have hend : Goal.step handles .documentEnd [⟨.streamEnd, m, m'⟩] =
      .ok ⟨⟨.documentEnd, m⟩, [.document false], [⟨.streamEnd, m, m'⟩], handles⟩ := rfl
  have hstream : Goal.step handles (.document false) [⟨.streamEnd, m, m'⟩] =
      .ok ⟨⟨.streamEnd, m⟩, [], [], handles⟩ := rfl
  rw [ofGoals_cons hend]
  change (_ :: (Event.ofGoals handles [.document false] _).1,
    (Event.ofGoals handles [.document false] _).2) = _
  rw [ofGoals_cons hstream, List.append_nil, Event.ofGoals]

/-- The events of a JSON text: one document with the nodes of the value. -/
theorem events_compact {v : Value} (hv : IsShared v) :
    ∃ es start finish, List.Forall₂ Event.Adds es (items v) ∧
      events v.compact = (⟨.documentStart, start⟩ ::
        (es ++ [⟨.documentEnd, finish⟩, ⟨.streamEnd, finish⟩]), none) := by
  obtain ⟨ts, htokens, hts⟩ := tokens_compact hv
  obtain ⟨tv, te, rfl, htv, hte⟩ := List.map_eq_append_iff.1 hts
  obtain ⟨t, rfl, ht⟩ := List.map_eq_singleton_iff.1 hte
  obtain ⟨u, us, rfl, hu⟩ := opens_of_symbols htv
  have hnode : Begins (Step.node Step.standardHandles true false (u :: us ++ [t]))
      Step.standardHandles (items v) [t] := composes_of_isShared hv htv
  have hroot : Yields Step.standardHandles [.root false, .documentEnd] (u :: (us ++ [t]))
      (items v) [.documentEnd] [t] := hnode.yields_root rfl
  obtain ⟨es, hes, hroot⟩ := hroot
  rw [ofGoals_documentEnd ht] at hroot
  have hgoals : Event.ofGoals [] [.document true] (u :: us ++ [t]) =
      (⟨.documentStart, u.start⟩ ::
        (es ++ [⟨.documentEnd, t.start⟩, ⟨.streamEnd, t.start⟩]), none) := by
    rw [List.cons_append, ofGoals_cons (step_document hu)]
    exact congrArg (fun r => (_ :: r.1, r.2)) hroot
  refine ⟨es, u.start, t.start, hes, ?_⟩
  rw [events, htokens]
  dsimp only
  rw [hgoals]
  rfl

/-- A JSON text is a document of YAML with the nodes of its value. -/
theorem document_compact {v : Value} (hv : IsShared v) :
    ∃ nodes : List Node, nodes.map Node.item = items v ∧
      Document.ofText v.compact = ⟨nodes, .none, none, true⟩ := by
  obtain ⟨es, start, finish, hes, hevents⟩ := events_compact hv
  obtain ⟨nodes, hnodes, hdocument⟩ := ofEvents_append hes none .none 0
    [⟨.documentEnd, finish⟩, ⟨.streamEnd, finish⟩]
  refine ⟨nodes, hnodes, ?_⟩
  rw [Document.ofText, hevents]
  change Document.ofEvents none .none 0 (es ++ _) = _
  rw [hdocument]
  simp [Document.ofEvents]

end Liveness.Yaml
