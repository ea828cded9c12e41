import EdgeFleet.CommandLine.Parser
import EdgeFleet.CommandLine.Run
import EdgeFleet.CommandLine.Usage
import Std.Time.DateTime.Timestamp

/-!
# The program

Reads the command line, does what it says on the machine at hand, and shows what came of it. There
is no way to nodes from here, so every connection fails.
-/

namespace EdgeFleet

open Files CommandLine

/-- The failure that a system reports. -/
def Files.Fault.ofSystem (error : IO.Error) : Files.Fault :=
  match error with
  | .noFileOrDirectory .. => .notFound
  | .permissionDenied .. => .permissionDenied
  | .alreadyExists .. => .alreadyExists
  | .inappropriateType _ 20 _ => .notADirectory
  | .inappropriateType .. => .isADirectory
  | .unsatisfiedConstraints .. => .directoryNotEmpty
  | error => .other (toString error)

namespace System

/-- Does something on the machine that may fail. -/
def attempt {α : Type} (action : IO α) : IO (Except Files.Fault α) := do
  match ← action.toBaseIO with
  | .ok value => return .ok value
  | .error error => return .error (.ofSystem error)

/-- The rights in three bits. -/
def rights (bits : Nat) : IO.AccessRight :=
  { read := bits.testBit 2, write := bits.testBit 1, execution := bits.testBit 0 }

/-- Sets the mode of a file or directory. -/
def setMode (path : Path) (mode : Nat) : IO Unit :=
  IO.setAccessRights path.text ⟨rights (mode / 64), rights (mode / 8), rights mode⟩

/-- Writes a file. Its mode is set before there is anything in it to be read by others. -/
def writePrivate (path : Path) (content : Bytes) : IO Unit := do
  IO.FS.writeBinFile path.text .empty
  setMode path Tree.privateMode
  IO.FS.writeBinFile path.text ⟨content.toArray⟩

/-- The machine at hand. -/
def host : Host IO where
  createDirectory path :=
    attempt do unless path.text.isEmpty do IO.FS.createDirAll path.text
  setMode path mode := attempt (setMode path mode)
  read path := attempt do return (← IO.FS.readBinFile path.text).toList
  writePrivate path content := attempt (writePrivate path content)
  remove path := attempt (IO.FS.removeFile path.text)
  random count := do return (← IO.getRandomBytes count.toUSize).toList
  now := do return (← Std.Time.Timestamp.now).toSecondsSinceUnixEpoch.val

/-- What tasks are carried out with on this machine. -/
def tools : Tools IO where
  host := host
  suite := .standard
  library := Pki.tlsLibrary .standard
  operate operation := return (operation.run .unreachable ()).1

/-- What the environment says in place of flags. -/
def environment : IO (List (String × String)) := do
  let names := Flag.all.filterMap (·.standIn?)
  names.filterMapM fun name => do
    return (← IO.getEnv name).map fun value => (name, value)

/-- Does what words say, and gives the status to end with. -/
def run (words : List String) : IO UInt32 := do
  let environment ← System.environment
  match Invocation.parse (fun name => environment.lookup name) words with
  | .error .help =>
    IO.print usage
    return 0
  | .error .version =>
    IO.print versionLine
    return 0
  | .error .misuse =>
    IO.eprint usage
    return 2
  | .ok invocation =>
    match ← (tools.perform invocation).run with
    | .ok shown =>
      IO.print shown
      return 0
    | .error failure =>
      IO.eprint failure.report
      return 1

end System

end EdgeFleet

/-- Runs the program. -/
def main (words : List String) : IO UInt32 :=
  EdgeFleet.System.run words
