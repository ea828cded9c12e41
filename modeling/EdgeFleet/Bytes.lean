/-!
# Bytes

Byte strings, as texts in UTF-8 and as numbers with the most significant byte first.
-/

namespace EdgeFleet

/-- A byte string. -/
abbrev Bytes := List UInt8

namespace Bytes

/-- A text in UTF-8. -/
def ofText (text : String) : Bytes :=
  text.toUTF8.data.toList

/-- The text that bytes are in UTF-8. -/
def text? (bytes : Bytes) : Option String :=
  String.fromUTF8? ⟨bytes.toArray⟩

/-- The number that bytes stand for. -/
def toNat (bytes : Bytes) : Nat :=
  bytes.foldl (fun value byte => value * 256 + byte.toNat) 0

/-- The last `width` bytes of a number. -/
def ofNat (width value : Nat) : Bytes :=
  (List.range width).reverse.map fun position => .ofNat (value / Nat.pow 256 position)

/-- The fewest bytes that hold a number; zero takes one. -/
def ofNatShortest (value : Nat) : Bytes :=
  ofNat (Nat.log2 value / 8 + 1) value

end Bytes

end EdgeFleet
