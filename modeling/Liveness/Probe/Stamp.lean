import Liveness.Probe.Report
import Std.Time.Date.PlainDate

/-! How runs are identified and dated: by a random identifier in its usual form, and by the
universal time of the start. -/

namespace Liveness.Probe.Stamp

def hexDigits (b : UInt8) : List Char :=
  [Nat.digitChar (b.toNat / 16), Nat.digitChar (b.toNat % 16)]

/-- Sixteen bytes, marked as a random identifier of the fourth version. -/
def marked (bs : List UInt8) : List UInt8 :=
  (bs.modify 6 fun b => b % 16 + 0x40).modify 8 fun b => b % 64 + 0x80

/-- Groups of four, two, two, two and six bytes. -/
def runIdOf (random : List UInt8) : String :=
  let bs := marked random
  let group (start size : Nat) : String :=
    String.ofList (((bs.drop start).take size).flatMap hexDigits)
  String.intercalate "-" [group 0 4, group 4 2, group 6 2, group 8 2, group 10 6]

/-- A number with zeros before it up to a width. -/
def padded (width n : Nat) : String :=
  let ds := Nat.toDigits 10 n
  String.ofList (List.replicate (width - ds.length) '0' ++ ds)

/-- The part of a second, in thousandths, millionths or billionths as needed. -/
def fraction (nanos : Nat) : String :=
  if nanos = 0 then ""
  else if nanos % 1000000 = 0 then "." ++ padded 3 (nanos / 1000000)
  else if nanos % 1000 = 0 then "." ++ padded 6 (nanos / 1000)
  else "." ++ padded 9 nanos

/-- A time, given in nanoseconds since the start of 1970. -/
def timeOf (nanos : Nat) : String :=
  let seconds := nanos / 1000000000
  let date := Std.Time.PlainDate.ofEpochDay (.ofNat (seconds / 86400))
  let clock := seconds % 86400
  String.intercalate "-"
      [padded 4 date.year.toInt.toNat, padded 2 date.month.toNat, padded 2 date.day.toNat] ++
    "T" ++ String.intercalate ":"
      [padded 2 (clock / 3600), padded 2 (clock / 60 % 60), padded 2 (clock % 60)] ++
    fraction (nanos % 1000000000) ++ "Z"

end Liveness.Probe.Stamp
