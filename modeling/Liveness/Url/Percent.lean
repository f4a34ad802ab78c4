import Liveness.Text.Utf8

/-! Percent-encoding: which characters each part of a URL holds as they are, and the
bytes of the others as `%` and two hexadecimal digits. -/

namespace Liveness.Url

open Text

namespace Percent

/-- ASCII characters that are seen; everything else is encoded everywhere. -/
def isVisible (c : Char) : Bool := 0x20 ≤ c.toNat && c.toNat < 0x7f

def allows (refused : List Char) (c : Char) : Bool := isVisible c && !refused.contains c

def verbatim (c : Char) : Bool := allows [] c

def fragment (c : Char) : Bool := allows [' ', '"', '<', '>', '\x60'] c

def query (c : Char) : Bool := allows [' ', '"', '#', '<', '>'] c

/-- The query of a URL with a well-known scheme. -/
def webQuery (c : Char) : Bool := allows [' ', '"', '#', '<', '>', '\''] c

def path (c : Char) : Bool := allows [' ', '"', '<', '>', '\x60', '#', '?', '{', '}'] c

def userinfo (c : Char) : Bool :=
  allows [' ', '"', '<', '>', '\x60', '#', '?', '{', '}', '/', ':', ';', '=', '@', '[', '\\',
    ']', '^', '|'] c

def hexDigit (n : Nat) : Char := (Nat.digitChar n).toUpper

def encodeByte (b : UInt8) : List Char :=
  ['%', hexDigit (b.toNat / 16), hexDigit (b.toNat % 16)]

def encodeChar (allowed : Char → Bool) (c : Char) : List Char :=
  if allowed c then [c] else (String.utf8EncodeChar c).flatMap encodeByte

def encode (allowed : Char → Bool) (cs : List Char) : List Char :=
  cs.flatMap (encodeChar allowed)

def digitValue? (c : Char) : Option Nat :=
  if c.isDigit then some (c.toNat - 0x30)
  else if 'a' ≤ c && c ≤ 'f' then some (c.toNat - 0x61 + 10)
  else if 'A' ≤ c && c ≤ 'F' then some (c.toNat - 0x41 + 10)
  else none

/-- The bytes of a text whose escapes are undone; a `%` without two digits stands for
itself. -/
def decode : List Char → Bytes
  | [] => []
  | '%' :: a :: b :: cs =>
    match digitValue? a, digitValue? b with
    | some x, some y => (16 * x + y).toUInt8 :: decode cs
    | _, _ => String.utf8EncodeChar '%' ++ decode (a :: b :: cs)
  | c :: cs => String.utf8EncodeChar c ++ decode cs

end Percent

end Liveness.Url
