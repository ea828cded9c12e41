import EdgeFleet.Bytes

/-!
# Tagged elements

Certificates, requests and keys are trees of elements: a tag, a length, and a content, which may
hold elements again. `Tag.element` writes one in the only way there is; `Element.read?` is less
narrow, as writers differ, and `Element.isCanonical` tells whether an element is as it would be
written here.
-/

namespace EdgeFleet.Der

/-- Who a tag number belongs to. -/
inductive Family where
  | universal
  | application
  | context
  | reserved
  deriving Repr, DecidableEq

/-- What an element is. -/
structure Tag where
  family : Family
  /-- Whether the content is made of elements. -/
  constructed : Bool
  number : Nat
  deriving Repr, DecidableEq

/-- An element, with its tag and length as they stand. -/
structure Element where
  tag : Tag
  header : Bytes
  content : Bytes
  deriving Repr, DecidableEq

namespace Family

/-- The two bits for a family. -/
def code : Family → Nat
  | .universal => 0
  | .application => 1
  | .context => 2
  | .reserved => 3

/-- The family for two bits. -/
def ofCode (code : Nat) : Family :=
  match code with
  | 0 => .universal
  | 1 => .application
  | 2 => .context
  | _ => .reserved

end Family

namespace Tag

/-- A plain type. -/
def plain (number : Nat) : Tag := ⟨.universal, false, number⟩

/-- A type whose values are made of elements. -/
def nested (number : Nat) : Tag := ⟨.universal, true, number⟩

/-- A place in a structure whose value is made of elements. -/
def place (number : Nat) : Tag := ⟨.context, true, number⟩

/-- A place in a structure whose value is plain. -/
def plainPlace (number : Nat) : Tag := ⟨.context, false, number⟩

/-- A truth value. -/
def boolean : Tag := plain 1

/-- A whole number. -/
def integer : Tag := plain 2

/-- A string of bits. -/
def bitString : Tag := plain 3

/-- A string of bytes. -/
def octetString : Tag := plain 4

/-- No value. -/
def null : Tag := plain 5

/-- The name of a kind of thing. -/
def oid : Tag := plain 6

/-- A text of any characters. -/
def utf8String : Tag := plain 12

/-- A point in time with two digits for the year. -/
def utcTime : Tag := plain 23

/-- A point in time with four digits for the year. -/
def generalizedTime : Tag := plain 24

/-- Elements in order. -/
def sequence : Tag := nested 16

/-- Elements without an order. -/
def set : Tag := nested 17

/-- The byte for a tag with a small number. -/
def write (tag : Tag) : Bytes :=
  [.ofNat (tag.family.code * 64 + (if tag.constructed then 32 else 0) + tag.number)]

/-- The number in groups of seven bits, the last of which has a clear high bit. -/
def readNumber? : (limit : Nat) → (value : Nat) → Bytes → Option (Nat × Bytes)
  | 0, _, _ => none
  | _, _, [] => none
  | limit + 1, value, byte :: rest =>
    let value := value * 128 + byte.toNat % 128
    if byte.toNat < 128 then some (value % 0x100000000, rest) else readNumber? limit value rest

/-- Reads a tag. -/
def read? (input : Bytes) : Option (Tag × Bytes) :=
  match input with
  | [] => none
  | byte :: rest =>
    let tag (number : Nat) : Tag :=
      ⟨.ofCode (byte.toNat / 64), byte.toNat / 32 % 2 == 1, number⟩
    if byte.toNat % 32 = 31 then
      (readNumber? 5 0 rest).map fun (number, rest) => (tag number, rest)
    else some (tag (byte.toNat % 32), rest)

end Tag

/-- The fewest bytes for a length. -/
def writeLength (length : Nat) : Bytes :=
  if length < 128 then [.ofNat length]
  else
    let bytes := Bytes.ofNatShortest length
    .ofNat (128 + bytes.length) :: bytes

/-- Reads a length of at most eight bytes. -/
def readLength? (input : Bytes) : Option (Nat × Bytes) :=
  match input with
  | [] => none
  | byte :: rest =>
    if byte.toNat < 128 then some (byte.toNat, rest)
    else
      let width := byte.toNat - 128
      let length := Bytes.toNat (rest.take width)
      if width = 0 || width = 127 || rest.length < width || 0x10000000000000000 ≤ length then none
      else some (length, rest.drop width)

/-- An element with a tag and a content. -/
def Tag.element (tag : Tag) (content : Bytes) : Element :=
  ⟨tag, tag.write ++ writeLength content.length, content⟩

namespace Element

/-- An element as bytes. -/
def bytes (element : Element) : Bytes :=
  element.header ++ element.content

/-- Reads an element, and gives what follows it. -/
def read? (input : Bytes) : Option (Element × Bytes) := do
  let (tag, rest) ← Tag.read? input
  let (length, rest) ← readLength? rest
  guard (length ≤ rest.length)
  return (⟨tag, input.take (input.length - rest.length), rest.take length⟩, rest.drop length)

/-- Whether an element is written with the fewest bytes. -/
def isCanonical (element : Element) : Bool :=
  element == element.tag.element element.content

end Element

/-- An element of parts. -/
def Tag.of (tag : Tag) (parts : List Bytes) : Bytes :=
  (tag.element parts.flatten).bytes

/-- A whole number that is not negative. -/
def integer (value : Nat) : Bytes :=
  let bytes := Bytes.ofNatShortest value
  Tag.integer.of [if (bytes.headD 0).toNat < 128 then bytes else 0 :: bytes]

/-- A string of whole bytes, as a string of bits. -/
def bitString (bytes : Bytes) : Bytes :=
  Tag.bitString.of [0 :: bytes]

/-- A truth that is not left out. -/
def boolean (value : Bool) : Bytes :=
  Tag.boolean.of [[if value then 0xff else 0]]

/-- The empty value. -/
def null : Bytes := Tag.null.of []

example : integer 128 = [2, 2, 0, 128] := by decide +kernel

example : (Element.read? (integer 300 ++ [7])).map (·.2) = some [7] := by decide +kernel

end EdgeFleet.Der
