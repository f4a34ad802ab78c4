import Liveness.CommandLine
import Liveness.Http.Socket
import Liveness.Probe.Stamp
import Std.Time.DateTime.Timestamp

/-! The command as a process: where its environment, its file, the time and chance come
from. -/

namespace Liveness.Main

open Text

/-- The variables that a block of `name=value` texts sets, each ended by a zero byte. -/
def settings (block : Bytes) : List (Bytes × Bytes) :=
  (block.splitOn 0).filterMap fun entry =>
    match entry with
    | [] => none
    | b :: bs =>
      match bs.dropWhile (· ≠ 0x3D) with
      | [] => none
      | _ :: value => some (b :: bs.takeWhile (· ≠ 0x3D), value)

def environment : IO Environment := do
  let block ← IO.FS.readBinFile "/proc/self/environ"
  return ⟨settings block.toList⟩

/-- What a path leads to. What is not found to be missing is there, even if it cannot be
read. -/
def entry (path : String) : IO (Except Files.FileError Files.Entry) := do
  if path.toList.contains '\x00' then return .error .nulInName
  try
    return .ok (.file (← IO.FS.readBinFile path).toList)
  catch
    | .inappropriateType _ 21 _ => return .ok .directory
    | .inappropriateType .. => return .error .notDirectory
    | .noFileOrDirectory .. => return .error .notFound
    | .invalidArgument .. => return .error .nameTooLong
    | .permissionDenied _ code details =>
      return .ok (.unreadable (details ++ " (os error " ++ toString code ++ ")"))
    | e => return .ok (.unreadable e.toString)

/-- The paths of the process, of which only the one that the run asks for is looked at. -/
def files (args : List String) (e : Environment) : IO Files.View := do
  match ← Config.chosenPath? (fun name => pure (e.text? name)) args with
  | none => return fun _ => .error .notFound
  | some path =>
    let found ← entry path
    return fun p => if p = path then found else .error .notFound

def watch : IO (IO Probe.Stamp) := do
  let runId := Probe.Stamp.runIdOf (← IO.getRandomBytes 16).toList
  let startedAt := Probe.Stamp.timeOf
    (← Std.Time.Timestamp.now).toNanosecondsSinceUnixEpoch.toInt.toNat
  let start ← IO.monoMsNow
  return do return ⟨runId, startedAt, UInt64.ofNatClamp ((← IO.monoMsNow) - start)⟩

/-- Prints what a process leaves, and gives its code. One that panics has the code of a panic. -/
def finish : CommandLine.Ending → IO UInt32
  | .exited exit output failure => do
    IO.print output
    if let some failure := failure then IO.eprint failure
    return exit.toUInt32
  | .panicked => do
    IO.eprintln "panicked: the environment cannot be read"
    return 101

end Liveness.Main

open Liveness in
def main (args : List String) : IO UInt32 := do
  let e ← Main.environment
  let files ← Main.files args e
  let watch : Http.Socket.Sockets (Http.Socket.Sockets Probe.Stamp) := do
    let stop ← Main.watch
    return stop
  let (ending, _) ← (CommandLine.run Http.Socket.wire watch files args e).run []
  Main.finish ending
