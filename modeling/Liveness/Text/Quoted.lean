import Liveness.Unicode.GraphemeExtend
import Liveness.Unicode.Printable

/-! Texts as messages quote them: between double quotes, with a backslash before a
quote or a backslash, and with an escape for whatever could not be seen. -/

namespace Liveness.Text.Quoted

open Liveness.Unicode

/-- Small hexadecimal digits, as many as needed. -/
def hex (n : Nat) : List Char := Nat.toDigits 16 n

def encodeChar (c : Char) : List Char :=
  if c = '"' || c = '\\' then ['\\', c]
  else if c = '\n' then ['\\', 'n']
  else if c = '\r' then ['\\', 'r']
  else if c = '\t' then ['\\', 't']
  else if c = '\x00' then ['\\', '0']
  else if extendsGrapheme c || !isPrintable c then
    ['\\', 'u', '{'] ++ hex c.toNat ++ ['}']
  else [c]

def encode (s : String) : String :=
  String.ofList ('"' :: s.toList.flatMap encodeChar ++ ['"'])

end Liveness.Text.Quoted
