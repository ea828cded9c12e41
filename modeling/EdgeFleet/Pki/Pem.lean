import EdgeFleet.Pki.Fault
import EdgeFleet.Text.Base64
import EdgeFleet.Text.Blank

/-!
# Bytes between marked lines

Keys and certificates are kept as text: a line that tells what begins, the bytes in characters, and
a line that tells what ends. `Pem.parse?` takes the first such block of a text and does not look at
what stands before or after it; `Pem.render` writes one.
-/

namespace EdgeFleet.Pki

open Text

/-- A block: what it holds by its own account, and its bytes. -/
structure Pem where
  label : String
  content : Bytes
  deriving Repr, DecidableEq

namespace Pem

/-- What stands before the first place where a mark stands, and what stands after that place. -/
def splitAt? (mark : List Char) : List Char → Option (List Char × List Char)
  | [] => if mark.isEmpty then some ([], []) else none
  | c :: rest =>
    if mark.isPrefixOf (c :: rest) then some ([], (c :: rest).drop mark.length)
    else (splitAt? mark rest).map fun (before, after) => (c :: before, after)

/-- The lines of a text. A line break at the end of the text begins no line. -/
def lines (cs : List Char) : List (List Char) :=
  let pieces := cs.splitOn '\n'
  if pieces.getLast? = some [] then pieces.dropLast else pieces

/-- The remarks at the head of a body, and its characters. An empty line separates them. -/
def parts (body : List Char) : List Char × List Char :=
  match splitAt? "\n\n".toList body with
  | some parts => parts
  | none => (splitAt? "\r\n\r\n".toList body).getD ([], body)

/-- Whether every remark has a name. -/
def isNamed (remarks : List Char) : Bool :=
  remarks.isEmpty || (lines remarks).all fun line => line.contains ':'

/-- The first block of a text. -/
def parse? (text : String) : Option Pem := do
  let (_, cs) ← splitAt? "-----BEGIN ".toList text.toList
  let (label, cs) ← splitAt? "-----".toList cs
  let cs := cs.dropWhile fun c => c = ' ' || c = '\t' || c = '\n' || c = '\r'
  let (body, cs) ← splitAt? "-----END ".toList cs
  let (last, _) ← splitAt? "-----".toList cs
  let (remarks, characters) := parts body
  guard (!label.isEmpty && label = last && isNamed remarks)
  let content ← Base64.standard.decodeChars? (characters.filter fun c => !isBlank c)
  return ⟨.ofList label, content⟩

/-- Lines of a fixed length. -/
def wrap (width : Nat) (cs : List Char) : List Char :=
  ((cs.zipIdx).flatMap fun (c, index) =>
    if index % width = 0 && index ≠ 0 then ['\n', c] else [c])

/-- The text of a block. -/
def render (block : Pem) : String :=
  "-----BEGIN " ++ block.label ++ "-----\n"
    ++ .ofList (wrap 64 (Base64.standard.encodeChars block.content))
    ++ "\n-----END " ++ block.label ++ "-----\n"

/-- The bytes of the first block of a text. -/
def read (text : String) : Except Fault Bytes :=
  match parse? text with
  | some block => .ok block.content
  | none => .error (.unreadable .pem)

end Pem

end EdgeFleet.Pki
