import EdgeFleet.Der.Element

/-!
# Names of kinds of things

A name is a path of numbers. It is kept as the content of its element, since paths that are not well
formed are carried along too.
-/

namespace EdgeFleet.Der

/-- The name of a kind of thing. -/
structure Oid where
  content : Bytes
  deriving Repr, DecidableEq

namespace Oid

/-- A number in groups of seven bits, where all but the last have their high bit set. -/
def writeNumber (value : Nat) : Bytes :=
  let count := Nat.log2 value / 7 + 1
  (List.range count).reverse.map fun place =>
    .ofNat (value / Nat.pow 128 place % 128 + (if place = 0 then 0 else 128))

/-- The name with a path; its first two numbers share a place. -/
def ofPath (path : List Nat) : Oid :=
  match path with
  | first :: second :: rest => ⟨List.flatMap writeNumber ((first * 40 + second) :: rest)⟩
  | _ => ⟨[]⟩

/-- The numbers in a content. A group without an end does not count. -/
def numbers (content : Bytes) : List Nat :=
  (content.foldl
    (fun (found, value) byte =>
      let value := value * 128 + byte.toNat % 128
      if byte.toNat < 128 then (value :: found, 0) else (found, value))
    (([] : List Nat), 0)).1.reverse

/-- The path of a name. -/
def path (oid : Oid) : List Nat :=
  match numbers oid.content with
  | [] => []
  | head :: rest => min (head / 40) 2 :: (head - 40 * min (head / 40) 2) :: rest

/-- The path with points between the numbers. -/
def name (oid : Oid) : String :=
  ".".intercalate (oid.path.map toString)

/-- A name as an element. -/
def bytes (oid : Oid) : Bytes :=
  Tag.oid.of [oid.content]

end Oid

example : (Oid.ofPath [1, 2, 840, 113549]).path = [1, 2, 840, 113549] := by decide +kernel

end EdgeFleet.Der
