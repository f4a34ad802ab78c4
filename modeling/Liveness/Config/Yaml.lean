import Liveness.Config.Basic
import Liveness.Yaml.Value

/-! Configurations in YAML: a mapping with the fields by name, in the only document of its
stream. Members of other names are passed over whatever they hold. -/

namespace Liveness.Config

open Liveness.Yaml (Document Node Mark Found)

namespace OfYaml

inductive Cause where
  | invalidType (found : Found) (expected : String)
  | invalidValue (text expected : String)
  | duplicateField (name : String)
  | invalidUrl (cause : Url.Error) (text : String)

def Cause.message : Cause → String
  | .invalidType f e => "invalid type: " ++ f.describe ++ ", expected " ++ e
  | .invalidValue t e => "invalid value: string " ++ Text.Quoted.encode t ++ ", expected " ++ e
  | .duplicateField n => "duplicate field `" ++ n ++ "`"
  | .invalidUrl c t => c.message ++ ": " ++ Text.Quoted.encode t

/-- Why a text gives no configuration. -/
inductive Error where
  | malformed (cause : Liveness.Yaml.Error)
  | endOfStream
  | severalDocuments
  /-- A node of the document is not what it should be; `member` is the member it belongs
  to, if that is known. -/
  | unsuitable (cause : Cause) (mark : Mark) (member : Option String)

def Error.message : Error → String
  | .malformed e => e.message
  | .endOfStream => "EOF while parsing a value"
  | .severalDocuments =>
    "deserializing from YAML containing more than one document is not supported"
  | .unsuitable c m member =>
    (match member with
      | some name => name ++ ": "
      | none => "") ++ c.message ++ Liveness.Yaml.atPlace m

/-- The document has given out. -/
def truncated (d : Document) : Error :=
  match d.problem with
  | some e => .malformed e
  | none => .endOfStream

/-- Where a value stands: in a member of the given name, of a mapping that begins at
`start`. -/
structure Place where
  member : String
  start : Mark

/-- The error for a node of another kind than `expected`. -/
def wrongKind (n : Node) (member : Option String) (expected : String) : Error :=
  match n.item with
  | .sequenceStart => .unsuitable (.invalidType .sequence expected) n.mark member
  | .mappingStart => .unsuitable (.invalidType .map expected) n.mark member
  | .scalar tag text style =>
    match Liveness.Yaml.ofScalar tag text style with
    | .ok found => .unsuitable (.invalidType found expected) n.mark member
    | .error e => .unsuitable (.invalidValue e.text e.expected) n.mark member
  | _ => .endOfStream

/-- Every scalar is a string, whatever it looks like. -/
def readText (expected : String) (member : Option String) (n : Node) : Except Error String :=
  match n.item with
  | .scalar _ text _ => .ok (String.ofList text)
  | _ => .error (wrongKind n member expected)

def readUrl (p : Place) (n : Node) : Except Error Url :=
  (readText expectedUrl (some p.member) n).bind fun s =>
  (Url.parse s).mapError fun cause => .unsuitable (.invalidUrl cause s) n.mark (some p.member)

/-- A number stands in a plain scalar, or in a literal one with a tag that says so. -/
def readSeconds (p : Place) (n : Node) : Except Error UInt64 :=
  let number := match n.item with
    | .scalar tag text style =>
      if style = .plain ∨ (style = .literal ∧ tag = some (Liveness.Yaml.standardTag "int")) then
        Liveness.Yaml.word? text
      else none
    | _ => none
  match number with
  | some s => .ok s
  | none => .error (wrongKind n (some p.member) expectedTimeout)

/-- Whether a node stands for the absence of a value. -/
def isAbsent (p : Place) (n : Node) : Except Error Bool :=
  match n.item with
  | .scalar tag text .plain =>
    match tag with
    | none => .ok (text = [] || Liveness.Yaml.isNull text)
    | some t =>
      if t ≠ Liveness.Yaml.standardTag "null" then .ok false
      else if Liveness.Yaml.isNull text then .ok true
      else .error (.unsuitable (.invalidValue (String.ofList text) "null") p.start none)
  | _ => .ok false

def readOptional {α : Type} (read : Place → Node → Except Error α) (p : Place) (n : Node) :
    Except Error (Option α) :=
  (isAbsent p n).bind fun absent => if absent then .ok none else (read p n).map some

/-- Adds the value of a field to a draft. -/
def readField (d : Draft) (f : Field) (p : Place) (n : Node) : Except Error Draft :=
  match f with
  | .targetUrl => (readUrl p n).map fun u => { d with targetUrl := some u }
  | .timeoutSecs => (readOptional readSeconds p n).map fun t => { d with timeoutSecs := some t }
  | .userAgent =>
    (readOptional (fun p => readText expectedAgent (some p.member)) p n).map fun a =>
      { d with userAgent := some a }

def expectedKey : String := "field identifier"

/-- What messages call the member of a key; the name behind an alias is not looked up. -/
def memberName (key : Node) : String :=
  match key.item with
  | .scalar _ text _ => String.ofList text
  | _ => "?"

/-- The members of a mapping that begins at `start`. -/
def readMembers (doc : Document) (start : Mark) (d : Draft) (ns : List Node) :
    Except Error Draft :=
  match ns with
  | [] => .error (truncated doc)
  | key :: ns =>
    if key.item = .mappingEnd then .ok d
    else
      match readText expectedKey none (doc.resolve key) with
      | .error e => .error e
      | .ok name =>
        match Field.ofName? name with
        | none =>
          match _h : Document.afterNode 0 ns with
          | none => .error (truncated doc)
          | some rest => readMembers doc start d rest
        | some f =>
          if d.has f then .error (.unsuitable (.duplicateField f.name) start none)
          else
            match ns with
            | [] => .error (truncated doc)
            | value :: rest =>
              match readField d f ⟨memberName key, start⟩ (doc.resolve value) with
              | .error e => .error e
              | .ok d => readMembers doc start d rest
termination_by ns.length
decreasing_by
  · exact Nat.lt_succ_of_lt (Document.length_afterNode _h)
  · simp only [List.length_cons]; omega

/-- A document that is empty gives no field. -/
def readDraft (doc : Document) : Except Error Draft :=
  match doc.nodes with
  | [] => if doc.problem.isNone then .ok .empty else .error (truncated doc)
  | n :: ns =>
    match n.item with
    | .mappingStart => readMembers doc n.mark .empty ns
    | .scalar _ [] .plain => .ok .empty
    | _ => .error (wrongKind n none expectedConfig)

end OfYaml

open OfYaml in
/-- The fields that a YAML text gives. -/
def Draft.ofYaml (text : String) : Except Error Draft :=
  let doc := Document.ofText text
  (readDraft doc).bind fun d =>
  match doc.problem with
  | some e => .error (.malformed e)
  | none => if doc.isLast then .ok d else .error .severalDocuments

end Liveness.Config
