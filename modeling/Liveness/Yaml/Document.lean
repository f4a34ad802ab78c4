import Liveness.Yaml.Event.Grammar

/-! The first document of a YAML stream, with its aliases tied to the nodes they stand
for. -/

namespace Liveness.Yaml

inductive Item where
  /-- An alias by the number of its anchor. -/
  | alias (anchor : Nat)
  | scalar (tag : Option Text.Bytes) (text : List Char) (style : Style)
  | sequenceStart
  | sequenceEnd
  | mappingStart
  | mappingEnd
  deriving DecidableEq, Repr

/-- How many collections are open behind an item, of `depth` before it. -/
def Item.depthAfter (depth : Nat) : Item → Nat
  | .sequenceStart => depth + 1
  | .mappingStart => depth + 1
  | .sequenceEnd => depth - 1
  | .mappingEnd => depth - 1
  | _ => depth

/-- An item and its place. -/
structure Node where
  item : Item
  mark : Mark
  deriving DecidableEq, Repr

/-- Anchors are numbered by how many names there were before. Should a name come again,
a later one can get the same number, and what has that number is the last of its nodes. -/
structure Anchors where
  names : List (List Char × Nat)
  places : List (Nat × Nat)

namespace Anchors

def none : Anchors := ⟨[], []⟩

def number? (a : Anchors) (name : List Char) : Option Nat := a.names.lookup name

/-- Gives a name to the node at a place. -/
def set (a : Anchors) (place : Nat) : Option (List Char) → Anchors
  | .none => a
  | some name =>
    let number := a.names.length
    ⟨(name, number) :: a.names.filter (·.1 ≠ name), (number, place) :: a.places⟩

end Anchors

structure Document where
  nodes : List Node
  anchors : Anchors
  /-- What ended the document before its time. -/
  problem : Option Error
  /-- Whether the stream ends behind the document. -/
  isLast : Bool

namespace Document

def prepend (n : Node) (d : Document) : Document := { d with nodes := n :: d.nodes }

/-- The document that begins with the given events, up to its end, behind `place` nodes.
`problem` is what comes behind the events. -/
def ofEvents (problem : Option Error) (a : Anchors) (place : Nat) : List Event → Document
  | [] => ⟨[], a, problem, false⟩
  | e :: es =>
    match e.content with
    | .streamEnd => ⟨[], a, none, true⟩
    | .documentStart => ofEvents problem a place es
    | .documentEnd => ⟨[], a, none, es.any (·.content = .streamEnd) && es.length = 1⟩
    | .alias name =>
      match a.number? name with
      | some n => prepend ⟨.alias n, e.mark⟩ (ofEvents problem a (place + 1) es)
      | none => ⟨[], a, some (.unknownAnchor e.mark), false⟩
    | .scalar p text style =>
      prepend ⟨.scalar p.tag text style, e.mark⟩
        (ofEvents problem (a.set place p.anchor) (place + 1) es)
    | .sequenceStart p =>
      prepend ⟨.sequenceStart, e.mark⟩ (ofEvents problem (a.set place p.anchor) (place + 1) es)
    | .sequenceEnd => prepend ⟨.sequenceEnd, e.mark⟩ (ofEvents problem a (place + 1) es)
    | .mappingStart p =>
      prepend ⟨.mappingStart, e.mark⟩ (ofEvents problem (a.set place p.anchor) (place + 1) es)
    | .mappingEnd => prepend ⟨.mappingEnd, e.mark⟩ (ofEvents problem a (place + 1) es)

def ofText (s : String) : Document :=
  let (es, problem) := events s
  ofEvents problem .none 0 es

/-- The node that an alias stands for; any other stands for itself. -/
def resolve (d : Document) (n : Node) : Node :=
  match n.item with
  | .alias number => ((d.anchors.places.lookup number).bind (d.nodes[·]?)).getD n
  | _ => n

/-- What follows a node at the start of a list, if the node is complete. -/
def afterNode (depth : Nat) : List Node → Option (List Node)
  | [] => none
  | n :: ns =>
    if n.item.depthAfter depth = 0 then some ns else afterNode (n.item.depthAfter depth) ns

theorem length_afterNode {depth : Nat} {ns rest : List Node}
    (h : afterNode depth ns = some rest) : rest.length < ns.length := by
  induction ns generalizing depth with
  | nil => simp [afterNode] at h
  | cons n ns ih =>
    rw [afterNode] at h
    split at h
    · injection h with h
      simp [h]
    · exact Nat.lt_succ_of_lt (ih h)

end Document

end Liveness.Yaml
