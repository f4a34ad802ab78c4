import Liveness.Yaml.Event
import Liveness.Yaml.Token.Lexer

/-! From tokens to events, by a stack of what is still to come. Each step looks at the
goal on top, yields one event, and puts new goals in the place of that goal. -/

namespace Liveness.Yaml

/-- The handles that tags may have, with what they stand for; the first one counts. -/
abbrev Handles := List (List Char × Text.Bytes)

inductive Goal where
  /-- A document, or the end of the stream. Only the first one needs no mark. -/
  | document (first : Bool)
  /-- The node of a document, which may be missing behind a mark. -/
  | root (marked : Bool)
  | documentEnd
  | blockEntry (start : Mark)
  | indentlessEntry
  | blockKey (start : Mark)
  | blockValue (start : Mark)
  | flowEntry (start : Mark) (first : Bool)
  /-- A pair that is an entry of a flow sequence. -/
  | pairKey
  | pairValue
  | pairEnd
  | flowKey (start : Mark) (first : Bool)
  | flowValue (start : Mark)
  /-- The missing value of a key without an indicator. -/
  | flowNoValue (start : Mark)

structure Step where
  event : Event
  goals : List Goal
  tokens : List Token
  handles : Handles

/-- Why there is no step: the tokens have given out, or an error. -/
abbrev Halt := Option Error

namespace Step

variable (handles : Handles)

def fail (p : Problem) (m : Mark) (context : Option (Context × Mark)) : Except Halt Step :=
  .error (some (.malformed p m context))

/-- An event without a token of its own. -/
def emit (content : Content) (m : Mark) (goals : List Goal) (ts : List Token) :
    Except Halt Step :=
  .ok ⟨⟨content, m⟩, goals, ts, handles⟩

/-- What comes after the goals of a step. -/
def before (r : Except Halt Step) (g : Goal) : Except Halt Step :=
  r.map fun s => { s with goals := s.goals ++ [g] }

/-- The properties in front of a node, with the place of the tag, and what follows. -/
def properties (ts : List Token) :
    Option (List Char) × Option (List Char × Text.Bytes × Mark) × List Token :=
  match ts with
  | ⟨.anchor a, _, _⟩ :: ⟨.tag h s, m, _⟩ :: ts => (some a, some (h, s, m), ts)
  | ⟨.anchor a, _, _⟩ :: ts => (some a, none, ts)
  | ⟨.tag h s, m, _⟩ :: ⟨.anchor a, _, _⟩ :: ts => (some a, some (h, s, m), ts)
  | ⟨.tag h s, m, _⟩ :: ts => (none, some (h, s, m), ts)
  | ts => (none, none, ts)

/-- The whole tag that a handle and a suffix denote. -/
def wholeTag (start : Mark) :
    Option (List Char × Text.Bytes × Mark) → Except Halt (Option Text.Bytes)
  | none => .ok none
  | some (h, s, m) =>
    if h = [] then .ok (some s)
    else
      match handles.lookup h with
      | some p => .ok (some (p ++ s))
      | none => .error (some (.malformed .undefinedTagHandle m (some (.node, start))))

/-- The tag `!` says of a scalar that it has none. -/
def scalarTag (tag : Option Text.Bytes) : Option Text.Bytes := tag.filter (· ≠ [0x21])

/-- The start of a collection, or a scalar, that `t` opens behind properties; `start` is
the place of the first of these. -/
def content (inBlock indentless : Bool) (p : Properties) (start : Mark) (t : Token)
    (rest : List Token) : Except Halt Step :=
  match t.symbol with
  | .scalar text style =>
    emit handles (.scalar { p with tag := scalarTag p.tag } text style) start [] rest
  | .flowSequenceStart => emit handles (.sequenceStart p) start [.flowEntry t.start true] rest
  | .flowMappingStart => emit handles (.mappingStart p) start [.flowKey t.start true] rest
  | symbol =>
    if symbol = .blockEntry ∧ indentless then
      emit handles (.sequenceStart p) start [.indentlessEntry] (t :: rest)
    else if symbol = .blockSequenceStart ∧ inBlock then
      emit handles (.sequenceStart p) start [.blockEntry t.start] rest
    else if symbol = .blockMappingStart ∧ inBlock then
      emit handles (.mappingStart p) start [.blockKey t.start] rest
    else if p = .none then
      fail .noNodeContent t.start (some (if inBlock then .blockNode else .flowNode, start))
    else emit handles (.scalar p [] .plain) start [] (t :: rest)

/-- A node. In a block mapping a sequence may begin without indentation. -/
def node (inBlock indentless : Bool) (ts : List Token) : Except Halt Step :=
  match ts with
  | [] => .error none
  | ⟨.alias name, m, _⟩ :: rest => emit handles (.alias name) m [] rest
  | first :: later =>
    match properties (first :: later) with
    | (_, _, []) => .error none
    | (anchor, tag, t :: rest) =>
      (wholeTag handles first.start tag).bind fun tag =>
      content handles inBlock indentless ⟨anchor, tag⟩ first.start t rest

/-- A node, or an empty one at `m` if one of `stops` comes first. -/
def nodeUnless (stops : List Symbol) (inBlock indentless : Bool) (m : Mark) (ts : List Token) :
    Except Halt Step :=
  match ts with
  | [] => .error none
  | t :: rest =>
    if stops.contains t.symbol then emit handles .empty m [] (t :: rest)
    else node handles inBlock indentless (t :: rest)

/-- The entries that remain of a flow sequence, behind a comma. -/
def flowItem (start : Mark) (ts : List Token) : Except Halt Step :=
  match ts with
  | [] => .error none
  | t :: rest =>
    if t.symbol = .flowSequenceEnd then emit handles .sequenceEnd t.start [] rest
    else if t.symbol = .key then
      emit handles (.mappingStart .none) t.start [.pairKey, .flowEntry start false] rest
    else before (node handles false false (t :: rest)) (.flowEntry start false)

/-- The members that remain of a flow mapping, behind a comma. -/
def flowMember (start : Mark) (ts : List Token) : Except Halt Step :=
  match ts with
  | [] => .error none
  | t :: rest =>
    if t.symbol = .flowMappingEnd then emit handles .mappingEnd t.start [] rest
    else if t.symbol = .key then
      match rest with
      | [] => .error none
      | u :: _ =>
        before (nodeUnless handles [.value, .flowEntry, .flowMappingEnd] false false u.start rest)
          (.flowValue start)
    else before (node handles false false (t :: rest)) (.flowNoValue start)

/-- A value in a flow collection: behind a colon, or an empty one. -/
def valueBefore (stops : List Symbol) (next : Goal) (ts : List Token) : Except Halt Step :=
  match ts with
  | [] => .error none
  | ⟨.value, _, _⟩ :: [] => .error none
  | ⟨.value, _, _⟩ :: u :: rest =>
    before (nodeUnless handles stops false false u.start (u :: rest)) next
  | t :: rest => emit handles .empty t.start [next] (t :: rest)

/-- The directives in front of a document. -/
def directives (version : Bool) : Handles → List Token → Except Halt (Handles × List Token)
  | hs, ⟨.version major minor, m, _⟩ :: ts =>
    if version then .error (some (.malformed .duplicateVersion m none))
    else if major = 1 ∧ (minor = 1 ∨ minor = 2) then directives true hs ts
    else .error (some (.malformed .incompatibleVersion m none))
  | hs, ⟨.tagDirective h p, m, _⟩ :: ts =>
    if (hs.lookup h).isSome then .error (some (.malformed .duplicateTagDirective m none))
    else directives version (hs ++ [(h, p)]) ts
  | hs, ts => .ok (hs, ts)

/-- The handles that need no directive. -/
def standardHandles : Handles :=
  [(['!'], [0x21]), (['!', '!'], Text.Utf8.encode "tag:yaml.org,2002:")]

/-- A document that has a mark, or the end of the stream. -/
def markedDocument (ts : List Token) : Except Halt Step :=
  match ts with
  | [] => .error none
  | ⟨.streamEnd, m, _⟩ :: _ => emit handles .streamEnd m [] []
  | t :: rest =>
    (directives false [] (t :: rest)).bind fun
    | (_, []) => .error none
    | (hs, u :: rest) =>
      if u.symbol = .documentStart then
        emit (hs ++ standardHandles) .documentStart t.start [.root true, .documentEnd] rest
      else fail .noDocumentStart u.start none

def isDocumentEnd (t : Token) : Bool := t.symbol = .documentEnd

/-- Whether a document that begins with a token has to have a mark. -/
def needsMark : Symbol → Bool
  | .version .. => true
  | .tagDirective .. => true
  | .documentStart => true
  | .streamEnd => true
  | _ => false

def isDocumentBoundary (s : Symbol) : Bool := needsMark s || s = .documentEnd

end Step

open Step in
/-- The step for a goal. -/
def Goal.step (handles : Handles) (g : Goal) (ts : List Token) : Except Halt Step :=
  match ts with
  | [] => .error none
  | t :: rest =>
    match g with
    | .document first =>
      if !first then markedDocument handles (ts.dropWhile isDocumentEnd)
      else if needsMark t.symbol then markedDocument handles ts
      else emit standardHandles .documentStart t.start [.root false, .documentEnd] ts
    | .root marked =>
      if marked && isDocumentBoundary t.symbol then emit handles .empty t.start [] ts
      else node handles true false ts
    | .documentEnd =>
      emit handles .documentEnd t.start [.document false] (if isDocumentEnd t then rest else ts)
    | .blockEntry start =>
      if t.symbol = .blockEntry then
        before (nodeUnless handles [.blockEntry, .blockEnd] true false t.finish rest)
          (.blockEntry start)
      else if t.symbol = .blockEnd then emit handles .sequenceEnd t.start [] rest
      else fail .noBlockEntry t.start (some (.blockSequence, start))
    | .indentlessEntry =>
      if t.symbol = .blockEntry then
        before (nodeUnless handles [.blockEntry, .key, .value, .blockEnd] true false t.finish rest)
          .indentlessEntry
      else emit handles .sequenceEnd t.start [] ts
    | .blockKey start =>
      if t.symbol = .key then
        before (nodeUnless handles [.key, .value, .blockEnd] true true t.finish rest)
          (.blockValue start)
      else if t.symbol = .blockEnd then emit handles .mappingEnd t.start [] rest
      else fail .noBlockKey t.start (some (.blockMapping, start))
    | .blockValue start =>
      if t.symbol = .value then
        before (nodeUnless handles [.key, .value, .blockEnd] true true t.finish rest)
          (.blockKey start)
      else emit handles .empty t.start [.blockKey start] ts
    | .flowEntry start first =>
      if first then flowItem handles start ts
      else if t.symbol = .flowEntry then flowItem handles start rest
      else if t.symbol = .flowSequenceEnd then emit handles .sequenceEnd t.start [] rest
      else fail .noSequenceEnd t.start (some (.flowSequence, start))
    | .pairKey =>
      -- an empty key takes the token behind it along
      if [Symbol.value, .flowEntry, .flowSequenceEnd].contains t.symbol then
        emit handles .empty t.finish [.pairValue] rest
      else before (node handles false false ts) .pairValue
    | .pairValue => valueBefore handles [.flowEntry, .flowSequenceEnd] .pairEnd ts
    | .pairEnd => emit handles .mappingEnd t.start [] ts
    | .flowKey start first =>
      if first then flowMember handles start ts
      else if t.symbol = .flowEntry then flowMember handles start rest
      else if t.symbol = .flowMappingEnd then emit handles .mappingEnd t.start [] rest
      else fail .noMappingEnd t.start (some (.flowMapping, start))
    | .flowValue start =>
      valueBefore handles [.flowEntry, .flowMappingEnd] (.flowKey start false) ts
    | .flowNoValue start => emit handles .empty t.start [.flowKey start false] ts

/-- How many steps a goal can take without a token. -/
def Goal.weight : Goal → Nat
  | .document first => if first then 4 else 1
  | .documentEnd => 2
  | .blockValue _ => 2
  | .pairValue => 2
  | .flowValue _ => 2
  | .flowNoValue _ => 2
  | _ => 1

def weights : List Goal → Nat
  | [] => 0
  | g :: gs => g.weight + weights gs

theorem weights_append (gs gs' : List Goal) : weights (gs ++ gs') = weights gs + weights gs' := by
  induction gs with
  | nil => simp only [List.nil_append, weights, Nat.zero_add]
  | cons g gs ih => simp only [List.cons_append, weights, ih, Nat.add_assoc]

namespace Step

variable (handles : Handles)

/-- What is left after a step: tokens, and goals. -/
def size (s : Step) : Nat := 8 * s.tokens.length + weights s.goals

theorem emit_size {content : Content} {m : Mark} {goals : List Goal} {ts : List Token} {n : Nat}
    (h : 8 * ts.length + weights goals ≤ n) :
    Ensures (emit handles content m goals ts) (·.size ≤ n) :=
  .ok h

theorem emit_size_lt {content : Content} {m : Mark} {goals : List Goal} {ts : List Token}
    {n : Nat} (h : 8 * ts.length + weights goals < n) :
    Ensures (emit handles content m goals ts) (·.size < n) :=
  .ok h

theorem before_size {r : Except Halt Step} {g : Goal} {n : Nat} (h : Ensures r (·.size ≤ n)) :
    Ensures (before r g) (·.size ≤ n + g.weight) :=
  h.map fun s hs => by
    simp only [size, weights, weights_append] at hs ⊢
    omega

theorem length_properties (ts : List Token) : (properties ts).2.2.length ≤ ts.length := by
  unfold properties
  split <;> simp <;> omega

theorem properties_eq_none {ts : List Token} (h : ts.length ≤ (properties ts).2.2.length) :
    (properties ts).1 = none ∧ (properties ts).2.1 = none := by
  unfold properties at h ⊢
  split at h
  · simp only [List.length_cons] at h
    omega
  · simp only [List.length_cons] at h
    omega
  · simp only [List.length_cons] at h
    omega
  · simp only [List.length_cons] at h
    omega
  · exact ⟨rfl, rfl⟩

theorem content_size (inBlock indentless : Bool) (p : Properties) (start : Mark) (t : Token)
    (rest : List Token) (n : Nat) (hp : p ≠ .none → rest.length < n) (hn : rest.length ≤ n) :
    Ensures (content handles inBlock indentless p start t rest)
      (·.size ≤ 8 * n + 1 + 8 * indentless.toNat) := by
  unfold content
  split
  · exact emit_size _ (by simp [weights]; omega)
  · exact emit_size _ (by simp [weights, Goal.weight]; omega)
  · exact emit_size _ (by simp [weights, Goal.weight]; omega)
  · split
    · next h => exact emit_size _ (by simp [weights, Goal.weight, h.2]; omega)
    · split
      · exact emit_size _ (by simp [weights, Goal.weight]; omega)
      · split
        · exact emit_size _ (by simp [weights, Goal.weight]; omega)
        · split
          · exact .error _ _
          · next h => exact emit_size _ (by have := hp h; simp [weights]; omega)

theorem node_size (inBlock indentless : Bool) {ts : List Token} {n : Nat}
    (h : ts.length ≤ n + 1) :
    Ensures (node handles inBlock indentless ts) (·.size ≤ 8 * n + 1 + 8 * indentless.toNat) := by
  unfold node
  split
  · exact .error _ _
  · exact emit_size _ (by simp [weights] at h ⊢; omega)
  · next first later _ =>
    have hp := length_properties (first :: later)
    have hq := @properties_eq_none (first :: later)
    split
    · exact .error _ _
    · next anchor tag t rest hr =>
      rw [hr] at hp hq
      simp only [List.length_cons] at hp h
      refine Ensures.bind (p := fun r => tag = none → r = none) ?_ fun r hr' => ?_
      · unfold wholeTag
        split
        · exact .ok fun _ => rfl
        · split
          · exact .ok fun h => by simp at h
          · split
            · exact .ok fun h => by simp at h
            · exact .error _ _
      · refine content_size _ _ _ _ _ _ _ _ (fun hne => Nat.lt_of_not_le fun hle => hne ?_)
          (by omega)
        have hq := hq (by simp; omega)
        simp only at hq
        simp [Properties.none, hq.1, hr' hq.2]

theorem nodeUnless_size (stops : List Symbol) (inBlock indentless : Bool) (m : Mark)
    (ts : List Token) :
    Ensures (nodeUnless handles stops inBlock indentless m ts) (·.size ≤ 8 * ts.length + 1) := by
  unfold nodeUnless
  split
  · exact .error _ _
  · split
    · exact emit_size _ (by simp [weights])
    · refine (node_size _ _ _ (Nat.le_refl _)).mono fun _ h => Nat.le_trans h ?_
      cases indentless <;>
        simp only [Bool.toNat_false, Bool.toNat_true, List.length_cons] <;>
        omega

theorem flowItem_size (start : Mark) (ts : List Token) :
    Ensures (flowItem handles start ts) (·.size < 8 * ts.length + 1) := by
  unfold flowItem
  split
  · exact .error _ _
  · split
    · exact emit_size_lt _ (by simp only [weights, List.length_cons]; omega)
    · split
      · exact emit_size_lt _ (by simp [weights, Goal.weight]; omega)
      · refine (before_size (node_size _ _ _ (Nat.le_refl _))).mono fun _ h => ?_
        simp [Goal.weight] at h ⊢
        omega

theorem flowMember_size (start : Mark) (ts : List Token) :
    Ensures (flowMember handles start ts) (·.size < 8 * ts.length + 1) := by
  unfold flowMember
  split
  · exact .error _ _
  · split
    · exact emit_size_lt _ (by simp only [weights, List.length_cons]; omega)
    · split
      · split
        · exact .error _ _
        · refine (before_size (nodeUnless_size _ _ _ _ _ _)).mono fun _ h => ?_
          simp [Goal.weight] at h ⊢
          omega
      · refine (before_size (node_size _ _ _ (Nat.le_refl _))).mono fun _ h => ?_
        simp [Goal.weight] at h ⊢
        omega

theorem valueBefore_size (stops : List Symbol) (next : Goal) (ts : List Token)
    (hn : next.weight = 1) :
    Ensures (valueBefore handles stops next ts) (·.size < 8 * ts.length + 2) := by
  unfold valueBefore
  split
  · exact .error _ _
  · exact .error _ _
  · refine (before_size (nodeUnless_size _ _ _ _ _ _)).mono fun _ h => ?_
    simp [hn] at h ⊢
    omega
  · exact emit_size_lt _ (by simp [weights, hn])

theorem directives_left (version : Bool) (hs : Handles) (ts : List Token) :
    Ensures (directives version hs ts) (·.2.length ≤ ts.length) := by
  fun_induction directives version hs ts with
  | case1 => exact .error _ _
  | case2 _ _ _ _ _ _ _ _ _ ih => exact ih.mono fun _ h => Nat.le_succ_of_le h
  | case3 => exact .error _ _
  | case4 => exact .error _ _
  | case5 _ _ _ _ _ _ _ _ ih => exact ih.mono fun _ h => Nat.le_succ_of_le h
  | case6 => exact .ok (Nat.le_refl _)

theorem markedDocument_size (ts : List Token) :
    Ensures (markedDocument handles ts) (·.size < 8 * ts.length + 1) := by
  unfold markedDocument
  split
  · exact .error _ _
  · exact emit_size_lt _ (by simp [weights])
  · refine (directives_left _ _ _).bind fun p hp => ?_
    split
    · exact .error _ _
    · simp only [List.length_cons] at hp
      split
      · exact emit_size_lt _ (by simp [weights, Goal.weight]; omega)
      · exact .error _ _

end Step

open Step in
/-- A step leaves less to do than there was. -/
theorem step_size (handles : Handles) (g : Goal) (ts : List Token) :
    Ensures (g.step handles ts) (·.size < 8 * ts.length + g.weight) := by
  have entry {stops : List Symbol} {i : Bool} {m : Mark} {next : Goal} {t : Token}
      {rest : List Token} {n : Nat} (h : next.weight ≤ 2) :
      Ensures (before (nodeUnless handles stops true i m rest) next)
        (·.size < 8 * (t :: rest).length + n) :=
    (before_size (nodeUnless_size _ _ _ _ _ _)).mono fun _ hs => by
      simp only [List.length_cons]
      omega
  unfold Goal.step
  split
  · exact .error _ _
  · next t rest =>
    split
    · next first =>
      split
      · refine (markedDocument_size _ _).mono fun _ h => ?_
        have := (List.dropWhile_sublist isDocumentEnd (l := t :: rest)).length_le
        cases first <;>
          simp only [Goal.weight, Bool.false_eq_true, reduceIte, List.length_cons] at * <;>
          omega
      · split
        · refine (markedDocument_size _ _).mono fun _ h => ?_
          cases first <;>
            simp only [Goal.weight, Bool.false_eq_true, reduceIte, List.length_cons] at * <;>
            omega
        · exact emit_size_lt _ (by cases first <;> simp_all [weights, Goal.weight])
    · split
      · exact emit_size_lt _ (by simp [weights, Goal.weight])
      · exact (node_size _ _ _ (Nat.le_refl _)).mono fun _ h => by
          simp [Goal.weight] at h ⊢
          omega
    · refine emit_size_lt _ ?_
      split <;>
        simp only [weights, Goal.weight, List.length_cons, Bool.false_eq_true, reduceIte] <;>
        omega
    · split
      · exact entry (by simp [Goal.weight])
      · split
        · exact emit_size_lt _ (by simp [weights]; omega)
        · exact .error _ _
    · split
      · exact entry (by simp [Goal.weight])
      · exact emit_size_lt _ (by simp [weights, Goal.weight])
    · split
      · exact entry (by simp [Goal.weight])
      · split
        · exact emit_size_lt _ (by simp [weights]; omega)
        · exact .error _ _
    · split
      · exact entry (by simp [Goal.weight])
      · exact emit_size_lt _ (by simp [weights, Goal.weight])
    · split
      · exact flowItem_size _ _ _
      · split
        · exact (flowItem_size _ _ _).mono fun _ h => by simp; omega
        · split
          · exact emit_size_lt _ (by simp [weights]; omega)
          · exact .error _ _
    · split
      · exact emit_size_lt _ (by simp [weights, Goal.weight]; omega)
      · exact (before_size (node_size _ _ _ (Nat.le_refl _))).mono fun _ h => by
          simp [Goal.weight] at h ⊢
          omega
    · exact valueBefore_size _ _ _ _ rfl
    · exact emit_size_lt _ (by simp [weights, Goal.weight])
    · split
      · exact flowMember_size _ _ _
      · split
        · exact (flowMember_size _ _ _).mono fun _ h => by simp; omega
        · split
          · exact emit_size_lt _ (by simp [weights]; omega)
          · exact .error _ _
    · exact valueBefore_size _ _ _ _ rfl
    · exact emit_size_lt _ (by simp [weights, Goal.weight])

/-- The events for a stack of goals, and what has put an end to them before their time. -/
def Event.ofGoals (handles : Handles) (gs : List Goal) (ts : List Token) :
    List Event × Option Halt :=
  match gs with
  | [] => ([], none)
  | g :: gs =>
    match _h : g.step handles ts with
    | .error e => ([], some e)
    | .ok s =>
      let later := Event.ofGoals s.handles (s.goals ++ gs) s.tokens
      (s.event :: later.1, later.2)
termination_by 8 * ts.length + weights gs
decreasing_by
  have := step_size _ _ _ _ _h
  simp only [Step.size, weights, weights_append] at this ⊢
  omega

/-- The events of a text up to its end or an error. -/
def events (s : String) : List Event × Option Error :=
  let (ts, problem) := tokens s
  let (es, halt) := Event.ofGoals [] [.document true] ts
  (es, halt.bind fun h => h.or problem)

end Liveness.Yaml
