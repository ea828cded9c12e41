import EdgeFleet.Files.Tree

/-!
# The machine that a program runs on

What a program asks of its machine: files, bytes that nobody can guess, and the time. Programs are
written for any `Host`. `Machine` is one that is a value: a tree of files, a sequence of bytes and a
clock that stands still.
-/

namespace EdgeFleet

/-- What a program asks of the machine it runs on. -/
structure Host (m : Type → Type) where
  /-- Makes a directory and those on the way to it. -/
  createDirectory : Files.Path → m (Except Files.Fault Unit)
  /-- Sets who may use a file or directory. -/
  setMode : Files.Path → Nat → m (Except Files.Fault Unit)
  /-- The content of a file. -/
  read : Files.Path → m (Except Files.Fault Bytes)
  /-- Writes a file that only its owner may use. -/
  writePrivate : Files.Path → Bytes → m (Except Files.Fault Unit)
  /-- Removes a file. -/
  remove : Files.Path → m (Except Files.Fault Unit)
  /-- A number of bytes that nobody can guess. -/
  random : Nat → m Bytes
  /-- The seconds since the start of 1970. -/
  now : m Int

/-- The content of a file as text. -/
def Host.readText {m : Type → Type} [Monad m] (host : Host m) (path : Files.Path) :
    m (Except Files.Fault String) := do
  return (← host.read path).bind Files.text

/-- A machine as a value. -/
structure Machine where
  files : Files.Tree
  clock : Int
  /-- The bytes that nobody can guess, draw by draw. -/
  entropy : Nat → Bytes
  /-- How often bytes were drawn. -/
  draws : Nat

namespace Machine

/-- Changes the files, or fails and leaves them as they are. -/
def change (act : Files.Tree → Except Files.Fault Files.Tree) :
    StateM Machine (Except Files.Fault Unit) := fun machine =>
  match act machine.files with
  | .ok files => (.ok (), { machine with files })
  | .error fault => (.error fault, machine)

/-- The machine as a host. -/
def host : Host (StateM Machine) where
  createDirectory path := change fun files => files.createDirectory path
  setMode path mode := change fun files => files.setMode path mode
  read path := fun machine => (machine.files.read path, machine)
  writePrivate path content := change fun files => files.writePrivate path content
  remove path := change fun files => files.remove path
  random count := fun machine =>
    ((machine.entropy machine.draws).take count, { machine with draws := machine.draws + 1 })
  now := fun machine => (machine.clock, machine)

end Machine

end EdgeFleet
