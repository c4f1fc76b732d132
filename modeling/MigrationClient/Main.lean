import MigrationClient.Run

/-!
# The command line program

Reads what a run needs from the system, and writes what it leaves behind. There is no network
here: the peer of every request is one that cannot be reached.
-/

namespace MigrationClient.Shell

open Text

/-- The condition that kept a file from being read. -/
def faultOf : IO.Error → Storage.Fault
  | .noFileOrDirectory _ code _ => .system code.toNat
  | .noSuchThing _ code _ => .system code.toNat
  | .permissionDenied _ code _ => .system code.toNat
  | .inappropriateType _ code _ => .system code.toNat
  | .invalidArgument _ code _ => .system code.toNat
  | .resourceExhausted _ code _ => .system code.toNat
  | .otherError code _ => .system code.toNat
  | e => .stated e.toString

def readFile (path : String) : IO (Except Storage.Fault (List UInt8)) := do
  try
    return .ok (← IO.FS.readBinFile path).toList
  catch e =>
    return .error (faultOf e)

/-- The environment of this process. -/
def environment : IO Environment := do
  match ← readFile "/proc/self/environ" with
  | .ok bytes => return ⟨(Text.splitBy (· == 0) bytes).filter (!·.isEmpty)⟩
  | .error _ => return .empty

/-- The world as far as a run with some arguments looks at it: the one file its settings name. -/
def world (args : List (List UInt8)) : IO World := do
  let env ← environment
  let named :=
    match CommandLine.parse env (Utf8.ofString CommandLine.defaultProgram :: args) with
    | .ok s => s.config.bind Utf8.toString?
    | .error _ => none
  match named with
  | none => return ⟨env, fun _ => .error .notFound⟩
  | some path =>
    let content ← readFile path
    return ⟨env, fun _ => content⟩

/-- The peer that cannot be reached. -/
def nobody : Http.Peer := ⟨fun _ => false, fun _ => .broken⟩

/-- The time since the program was started, in milliseconds. -/
def time (start : Nat) : IO String := do
  return s!"+{(← IO.monoMsNow) - start}ms"

/-- Runs the program with some arguments. -/
def run (arguments : List String) : IO UInt32 := do
  let start ← IO.monoMsNow
  let args := arguments.map Utf8.ofString
  let report := MigrationClient.run (← world args) nobody args
  for line in report.output do
    IO.print (line.write report.jsonLogs (← time start))
  IO.eprint report.errorOutput
  return report.exitCode.toUInt32

end MigrationClient.Shell

def main (arguments : List String) : IO UInt32 := MigrationClient.Shell.run arguments
