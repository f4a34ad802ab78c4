import Liveness.Json.Basic

/-! Writing a value, either without any space or one member a line. -/

namespace Liveness.Json

/-- Two small hexadecimal digits. -/
def hexByte (n : Nat) : List Char := [Nat.digitChar (n / 16 % 16), Nat.digitChar (n % 16)]

/-- Quotes, backslashes and characters below the space are escaped; five of the latter
have a letter. -/
def escape (c : Char) : List Char :=
  if c = '"' || c = '\\' then ['\\', c]
  else if c = '\n' then ['\\', 'n']
  else if c = '\r' then ['\\', 'r']
  else if c = '\t' then ['\\', 't']
  else if c = '\x08' then ['\\', 'b']
  else if c = '\x0c' then ['\\', 'f']
  else if c.toNat < 0x20 then ['\\', 'u', '0', '0'] ++ hexByte c.toNat
  else [c]

def quote (s : String) : List Char :=
  '"' :: s.toList.flatMap escape ++ ['"']

def literal (b : Bool) : List Char :=
  if b then ['t', 'r', 'u', 'e'] else ['f', 'a', 'l', 's', 'e']

def decimal (n : Nat) : List Char := Nat.toDigits 10 n

mutual

def compact : Value → List Char
  | .null => ['n', 'u', 'l', 'l']
  | .bool b => literal b
  | .number n => decimal n
  | .string s => quote s
  | .array items => '[' :: compactItems items
  | .object members => '{' :: compactMembers members

/-- The items and the closing bracket. -/
def compactItems : List Value → List Char
  | [] => [']']
  | [v] => compact v ++ [']']
  | v :: vs => compact v ++ ',' :: compactItems vs

/-- The members and the closing brace. -/
def compactMembers : List (String × Value) → List Char
  | [] => ['}']
  | [(k, v)] => quote k ++ ':' :: compact v ++ ['}']
  | (k, v) :: ms => quote k ++ ':' :: compact v ++ ',' :: compactMembers ms

end

/-- A new line at the given depth. -/
def newline (depth : Nat) : List Char := '\n' :: List.replicate (2 * depth) ' '

mutual

def prettyAt (depth : Nat) : Value → List Char
  | .null => ['n', 'u', 'l', 'l']
  | .bool b => literal b
  | .number n => decimal n
  | .string s => quote s
  | .array [] => ['[', ']']
  | .array (v :: vs) => '[' :: prettyItems depth (v :: vs)
  | .object [] => ['{', '}']
  | .object (m :: ms) => '{' :: prettyMembers depth (m :: ms)

def prettyItems (depth : Nat) : List Value → List Char
  | [] => [']']
  | [v] => newline (depth + 1) ++ prettyAt (depth + 1) v ++ newline depth ++ [']']
  | v :: vs => newline (depth + 1) ++ prettyAt (depth + 1) v ++ ',' :: prettyItems depth vs

def prettyMembers (depth : Nat) : List (String × Value) → List Char
  | [] => ['}']
  | [(k, v)] =>
    newline (depth + 1) ++ quote k ++ ':' :: ' ' :: prettyAt (depth + 1) v ++
      newline depth ++ ['}']
  | (k, v) :: ms =>
    newline (depth + 1) ++ quote k ++ ':' :: ' ' :: prettyAt (depth + 1) v ++
      ',' :: prettyMembers depth ms

end

def Value.compact (v : Value) : String := String.ofList (Json.compact v)

def Value.pretty (v : Value) : String := String.ofList (prettyAt 0 v)

end Liveness.Json
