import EdgeFleet.Der.Oid

/-!
# Reading elements

A reader takes elements from the front of a byte string. Types are known by their tag numbers alone;
places in a structure are known by their family as well. What is left over at the end of a
structure is not looked at, since later versions may add to it; `ended` says where that matters.
-/

namespace EdgeFleet.Der

/-- Takes a value from the front of a byte string. -/
abbrev Reader := StateT Bytes Option

namespace Reader

/-- The next element. -/
def element : Reader Element := fun input => Element.read? input

/-- The next element, if it is of a type. -/
def typed (tag : Tag) : Reader Element := do
  let found ← element
  guard (found.tag.number = tag.number && found.tag.constructed == tag.constructed)
  return found

/-- The end of the input. -/
def ended : Reader Unit := fun input => if input.isEmpty then some ((), []) else none

/-- The value that a reader takes from the front of a content. -/
def inside {α : Type} (reader : Reader α) (content : Bytes) : Option α :=
  (reader content).map (·.1)

/-- The value and the bytes that it was read from. -/
def withBytes {α : Type} (reader : Reader α) : Reader (α × Bytes) := fun input =>
  (reader input).map fun (value, rest) => ((value, input.take (input.length - rest.length)), rest)

/-- What a reader takes from inside the next element of a type. -/
def within {α : Type} (tag : Tag) (reader : Reader α) : Reader α := do
  let found ← typed tag
  StateT.lift (inside reader found.content)

/-- What a reader takes from inside the next structure, and the bytes of the structure as far as it
was read. -/
def sequenceWithBytes {α : Type} (reader : Reader α) : Reader (α × Bytes) := do
  let found ← typed .sequence
  let (value, taken) ← StateT.lift (inside (withBytes reader) found.content)
  return (value, found.header ++ taken)

/-- What a reader takes, if it takes anything. -/
def optional {α : Type} (reader : Reader α) : Reader (Option α) := fun input =>
  match reader input with
  | some (value, rest) => some (some value, rest)
  | none => some (none, input)

/-- The next element, if it is at a place of a structure. -/
def atPlace? (number : Nat) : Reader (Option Element) :=
  optional do
    let found ← element
    guard (found.tag.family = .context && found.tag.number = number)
    return found

/-- What a reader takes again and again, at most a number of times. -/
def repeated {α : Type} (reader : Reader α) : Nat → Reader (List α)
  | 0 => pure []
  | limit + 1 => do
    match ← optional reader with
    | some value => return value :: (← repeated reader limit)
    | none => return []

/-- All that a reader takes in a row. A reader that takes no byte is asked no more often than one
that takes single bytes. -/
def many {α : Type} (reader : Reader α) : Reader (List α) := fun input =>
  repeated reader input.length input

/-- All that a reader takes in a row up to the end. -/
def all {α : Type} (reader : Reader α) : Reader (List α) := do
  let values ← many reader
  ended
  return values

/-- The name of a kind of thing. -/
def oid : Reader Oid := do
  return ⟨(← typed .oid).content⟩

/-- The content of a whole number with no byte to spare. -/
def integer : Reader Bytes := do
  let found ← typed .integer
  match found.content with
  | [] => failure
  | a :: b :: _ =>
    if (a = 0 && b.toNat < 128) || (a = 0xff && 128 ≤ b.toNat) then failure
    else return found.content
  | _ => return found.content

/-- A whole number that is not negative. -/
def natural : Reader Nat := do
  let content ← integer
  guard ((content.headD 0).toNat < 128)
  return content.toNat

/-- The bytes of a string of bits, whose spare bits must not be set. -/
def bitString : Reader Bytes := do
  match (← typed .bitString).content with
  | [] => failure
  | spare :: bytes =>
    match bytes.getLast? with
    | none => if spare = 0 then return [] else failure
    | some last =>
      if spare ≤ 8 && last.toNat % Nat.pow 2 spare.toNat = 0 then return bytes else failure

/-- A string of bytes. -/
def octetString : Reader Bytes := do
  return (← typed .octetString).content

/-- The next element, if its tag is as given and it is written with the fewest bytes. -/
def exactly (tag : Tag) : Reader Bytes := do
  let found ← element
  guard (found.tag = tag && found.isCanonical && found.content.length < 0x10000)
  return found.content

/-- What a reader takes from inside the next element, which must be as in `exactly` and hold no
more. -/
def exactlyWithin {α : Type} (tag : Tag) (reader : Reader α) : Reader α := do
  let content ← exactly tag
  StateT.lift (inside (do let value ← reader; ended; return value) content)

/-- A whole number that is not negative, written with the fewest bytes. -/
def exactNatural : Reader Nat := do
  let content ← exactly .integer
  StateT.lift (inside natural (Tag.integer.element content).bytes)

end Reader

end EdgeFleet.Der
