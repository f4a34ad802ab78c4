import Liveness.Decimal.Text
import Liveness.Text.Quoted
import Liveness.Text.Utf8
import Liveness.Url.Basic

/-! What can be wrong with a JSON text, and where. -/

namespace Liveness.Json

open Text

/-- The kind of a value that stands where another kind is wanted. -/
inductive Found where
  | null
  | bool (b : Bool)
  | natural (n : Nat)
  | negative (n : Nat)
  | float (x : Float)
  | string (s : String)
  | sequence
  | map

/-- Doubles from `1e-5` to below `1e16` are written in place. -/
def floats : Decimal.Notation := ⟨fun e => -5 ≤ e && e ≤ 15, .toEven⟩

def Found.describe : Found → String
  | .null => "null"
  | .bool b => "boolean `" ++ (if b then "true" else "false") ++ "`"
  | .natural n => "integer `" ++ n.repr ++ "`"
  | .negative n => "integer `-" ++ n.repr ++ "`"
  | .float x => "floating point `" ++ floats.write x ++ "`"
  | .string s => "string " ++ Quoted.encode s
  | .sequence => "sequence"
  | .map => "map"

inductive Cause where
  | eofInValue
  | eofInString
  | eofInList
  | eofInObject
  | expectedValue
  | expectedIdent
  | expectedColon
  | expectedListEnd
  | expectedObjectEnd
  | keyNotString
  | trailingComma
  | trailingCharacters
  | invalidNumber
  | numberOutOfRange
  | invalidEscape
  | controlCharacter
  | endOfHexEscape
  | loneSurrogate
  | invalidType (found : Found) (expected : String)
  | invalidValue (found : Found) (expected : String)
  | duplicateField (name : String)
  | invalidUrl (cause : Url.Error) (text : String)

def Cause.message : Cause → String
  | .eofInValue => "EOF while parsing a value"
  | .eofInString => "EOF while parsing a string"
  | .eofInList => "EOF while parsing a list"
  | .eofInObject => "EOF while parsing an object"
  | .expectedValue => "expected value"
  | .expectedIdent => "expected ident"
  | .expectedColon => "expected `:`"
  | .expectedListEnd => "expected `,` or `]`"
  | .expectedObjectEnd => "expected `,` or `\x7d`"
  | .keyNotString => "key must be a string"
  | .trailingComma => "trailing comma"
  | .trailingCharacters => "trailing characters"
  | .invalidNumber => "invalid number"
  | .numberOutOfRange => "number out of range"
  | .invalidEscape => "invalid escape"
  | .controlCharacter => "control character (\\u0000-\\u001F) found while parsing a string"
  | .endOfHexEscape => "unexpected end of hex escape"
  | .loneSurrogate => "lone leading surrogate in hex escape"
  | .invalidType f e => "invalid type: " ++ f.describe ++ ", expected " ++ e
  | .invalidValue f e => "invalid value: " ++ f.describe ++ ", expected " ++ e
  | .duplicateField n => "duplicate field `" ++ n ++ "`"
  | .invalidUrl c t => c.message ++ ": " ++ Quoted.encode t

/-- A cause, and how many bytes of the text come after its place. -/
structure Error where
  cause : Cause
  left : Nat

def byteCount (cs : List Char) : Nat := cs.foldr (fun c n => c.utf8Size + n) 0

/-- An error in front of a text. -/
def Error.before (cause : Cause) (rest : List Char) : Error := ⟨cause, byteCount rest⟩

/-- An error at the first byte of a text, or at its end if it is empty. -/
def Error.on (cause : Cause) (rest : List Char) : Error := ⟨cause, byteCount rest - 1⟩

/-- A line, counted from one, and the number of bytes in it. -/
structure Position where
  line : Nat
  column : Nat
  deriving DecidableEq, Repr

def Position.next (p : Position) (b : UInt8) : Position :=
  if b = 10 then ⟨p.line + 1, 0⟩ else ⟨p.line, p.column + 1⟩

def Position.after (bs : Bytes) : Position := bs.foldl Position.next ⟨1, 0⟩

def Error.position (e : Error) (text : String) : Position :=
  let bs := Utf8.encode text
  .after (bs.take (bs.length - e.left))

def Error.message (e : Error) (text : String) : String :=
  let p := e.position text
  e.cause.message ++ " at line " ++ p.line.repr ++ " column " ++ p.column.repr

end Liveness.Json
