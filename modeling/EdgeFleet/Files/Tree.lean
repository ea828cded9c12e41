import EdgeFleet.Files.Path

/-!
# Trees of files

A tree maps places to files and directories, each with the mode that says who may use it. Places are
lists of names, and the present directory is the empty list; it and those above it are always there.
The operations fail for the same reasons as those of a system: a place on the way is missing, or is
no directory, or what is there is of the other kind.
-/

namespace EdgeFleet.Files

/-- What is at a place. -/
inductive Node where
  | file (mode : Nat) (content : Bytes)
  | directory (mode : Nat)
  deriving Repr, DecidableEq

namespace Node

/-- The mode of a file or directory. -/
def mode : Node → Nat
  | .file mode _ => mode
  | .directory mode => mode

/-- What is there, with another mode. -/
def withMode (mode : Nat) : Node → Node
  | .file _ content => .file mode content
  | .directory _ => .directory mode

/-- Whether it is a file. -/
def isFile : Node → Bool
  | .file _ _ => true
  | .directory _ => false

end Node

/-- Files and directories at their places. -/
structure Tree where
  nodes : List (List String × Node)
  deriving Repr, DecidableEq

namespace Tree

/-- The mode of directories that are made on the way. -/
def directoryMode : Nat := 0o755

/-- The mode of files for their owner alone. -/
def privateMode : Nat := 0o600

/-- The tree with nothing in it. -/
def empty : Tree := ⟨[]⟩

/-- What is at a place. -/
def find? (tree : Tree) (place : List String) : Option Node :=
  match tree.nodes.lookup place with
  | some node => some node
  | none => if Path.isAbove place then some (.directory directoryMode) else none

/-- Takes away what is at a place. -/
def erase (tree : Tree) (place : List String) : Tree :=
  ⟨tree.nodes.filter fun (known, _) => known ≠ place⟩

/-- Puts a node at a place. -/
def put (tree : Tree) (place : List String) (node : Node) : Tree :=
  ⟨(place, node) :: (tree.erase place).nodes⟩

/-- The places on the way to a place, from the present directory on. -/
def way (place : List String) : List (List String) :=
  (List.range place.length).map fun length => place.take length

/-- Why the way to a place cannot be gone. -/
def blocked? (tree : Tree) (place : List String) : Option Fault :=
  (way place).findSome? fun passed =>
    match tree.find? passed with
    | some (.directory _) => none
    | some (.file _ _) => some .notADirectory
    | none => some .notFound

/-- What is at the place of a path. -/
def resolve (tree : Tree) (path : Path) : Except Fault Node := do
  path.check
  match tree.blocked? path.parts, tree.find? path.parts with
  | some fault, _ => throw fault
  | none, none => throw .notFound
  | none, some node =>
    if node.isFile && path.text.endsWith "/" then throw .notADirectory else return node

/-- Makes a directory and those on the way to it that are missing. -/
def createDirectory (tree : Tree) (path : Path) : Except Fault Tree :=
  let isFileAt (place : List String) : Bool := (tree.find? place).any Node.isFile
  let place := path.parts
  if path.text.isEmpty then .ok tree
  else if path.text.toList.contains '\x00' then .error .invalidName
  else if (way place).any isFileAt then .error .notADirectory
  else if isFileAt place then .error .alreadyExists
  else
    .ok <| (way place ++ [place]).foldl
      (fun tree passed =>
        if (tree.find? passed).isSome then tree else tree.put passed (.directory directoryMode))
      tree

/-- Sets who may use what is at a path. -/
def setMode (tree : Tree) (path : Path) (mode : Nat) : Except Fault Tree := do
  let node ← tree.resolve path
  return tree.put path.parts (node.withMode mode)

/-- The content of a file. -/
def read (tree : Tree) (path : Path) : Except Fault Bytes := do
  match ← tree.resolve path with
  | .file _ content => return content
  | .directory _ => throw .isADirectory

/-- Writes a file that only its owner may use, in the place of one that is there. -/
def writePrivate (tree : Tree) (path : Path) (content : Bytes) : Except Fault Tree := do
  path.check
  match tree.blocked? path.parts, tree.find? path.parts with
  | some fault, _ => throw fault
  | none, some (.directory _) => throw .isADirectory
  | none, _ =>
    if path.text.endsWith "/" then throw .isADirectory
    else return tree.put path.parts (.file privateMode content)

/-- Removes a file. -/
def remove (tree : Tree) (path : Path) : Except Fault Tree := do
  match ← tree.resolve path with
  | .file _ _ => return tree.erase path.parts
  | .directory _ => throw .isADirectory

/-- The places within the present directory with what is there, in the order of their texts. -/
def list (tree : Tree) : List (String × Node) :=
  let within := tree.nodes.filter fun (place, _) => !(place.isEmpty || Path.isOutside place)
  (within.map fun (place, node) => ("/".intercalate place, node)).mergeSort fun a b => a.1 ≤ b.1

end Tree

end EdgeFleet.Files
