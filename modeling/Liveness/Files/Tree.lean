import Liveness.Files.Path
import Liveness.Text.Utf8

/-! The file tree below the working directory, and what a path leads to in it. Looking
whether something exists and reading it take the same walk. -/

namespace Liveness.Files

open Text

inductive Node where
  | file (contents : Bytes)
  | directory (children : List (String × Node))

inductive FileError where
  | nulInName
  | nameTooLong
  | notFound
  | notDirectory
  | isDirectory
  | notText
  | unreadable (reason : String)
  deriving DecidableEq, Repr

def FileError.message : FileError → String
  | .nulInName => "file name contained an unexpected NUL byte"
  | .nameTooLong => "File name too long (os error 36)"
  | .notFound => "No such file or directory (os error 2)"
  | .notDirectory => "Not a directory (os error 20)"
  | .isDirectory => "Is a directory (os error 21)"
  | .notText => "stream did not contain valid UTF-8"
  | .unreadable reason => reason

namespace Node

def child? : Node → String → Option Node
  | .file _, _ => none
  | .directory children, name => (children.find? fun c => c.1 = name).map (·.2)

/-- What stands at a list of names below a node. -/
def at? (n : Node) : List String → Option Node
  | [] => some n
  | name :: names => (n.child? name).bind fun c => c.at? names

def isDirectory : Node → Bool
  | .file _ => false
  | .directory _ => true

def empty : Node := .directory []

/-- Puts a node at a list of names; directories on the way are made as needed. -/
def put (n : Node) (names : List String) (new : Node) : Node :=
  match names with
  | [] => match n, new with
    | .directory cs, .directory [] => .directory cs
    | _, _ => new
  | name :: names =>
    let children := match n with
      | .file _ => []
      | .directory cs => cs
    let child := ((children.find? fun c => c.1 = name).map (·.2)).getD empty
    .directory (children.filter (fun c => c.1 ≠ name) ++ [(name, put child names new)])

end Node

/-- Where a walk has come to. Outside the working directory only the directories that
lead to it are known, and nothing in them. -/
inductive Place where
  | inside (names : List String)
  | outside
  deriving DecidableEq, Repr

/-- The longest name of a file, and the longest path, in bytes. -/
def maxName : Nat := 255

def maxPath : Nat := 4095

namespace Place

def parent : Place → Place
  | .inside [] => .outside
  | .inside names => .inside names.dropLast
  | .outside => .outside

/-- What stands at a place; outside, a directory that shows nothing. -/
def node? (root : Node) : Place → Option Node
  | .inside names => root.at? names
  | .outside => some .empty

end Place

/-- One step of a walk. Every step needs a directory to start from. -/
def step (root : Node) (here : Place) (part : List Char) : Except FileError Place :=
  if !(here.node? root).any Node.isDirectory then .error .notDirectory
  else if part = [] || part = ['.'] then .ok here
  else if part = ['.', '.'] then .ok here.parent
  else if maxName < (Utf8.encode (String.ofList part)).length then .error .nameTooLong
  else match here with
    | .outside => .error .notFound
    | .inside names =>
      let there := Place.inside (names ++ [String.ofList part])
      if (there.node? root).isSome then .ok there else .error .notFound

/-- The place that a path leads to. -/
def walk (root : Node) (path : String) : Except FileError Place :=
  if path.toList.contains '\x00' then .error .nulInName
  else if path = "" then .error .notFound
  else if maxPath < (Utf8.encode path).length then .error .nameTooLong
  else match parts path.toList with
    | [] :: rest => rest.foldlM (step root) .outside
    | ps => ps.foldlM (step root) (.inside [])

/-- What a path leads to. -/
inductive Entry where
  | file (contents : Bytes)
  | directory
  /-- A file that is there, but that the process may not or cannot read. -/
  | unreadable (reason : String)
  deriving DecidableEq, Repr

/-- What the paths of a process lead to. -/
abbrev View := String → Except FileError Entry

def Node.entry : Node → Entry
  | .file contents => .file contents
  | .directory _ => .directory

/-- The paths of a process that works at the root of a tree. -/
def Node.view (root : Node) : View := fun path =>
  (walk root path).map fun place => ((place.node? root).map entry).getD .directory

namespace View

/-- Whether a path leads anywhere. -/
def hasEntry (v : View) (path : String) : Bool :=
  match v path with
  | .ok _ => true
  | .error _ => false

/-- The text of the file that a path leads to. -/
def readText (v : View) (path : String) : Except FileError String :=
  match v path with
  | .error e => .error e
  | .ok .directory => .error .isDirectory
  | .ok (.unreadable reason) => .error (.unreadable reason)
  | .ok (.file contents) =>
    match Utf8.decode? contents with
    | some text => .ok text
    | none => .error .notText

end View

end Liveness.Files
