import EdgeFleet.Bytes

/-!
# Messages in blocks

The digests here take a message in blocks of a fixed length. `padded` completes a message to whole
blocks: a mark, zeros, and the length of the message in bits. `blocks` cuts it up, and each digest
folds its own compression over the blocks.
-/

namespace EdgeFleet.Digest

/-- The order of the bytes of a number. -/
inductive ByteOrder where
  | mostSignificantFirst
  | leastSignificantFirst
  deriving Repr, DecidableEq

namespace ByteOrder

/-- The number that bytes stand for. -/
def read : ByteOrder → Bytes → Nat
  | .mostSignificantFirst, bytes => bytes.toNat
  | .leastSignificantFirst, bytes => Bytes.toNat bytes.reverse

/-- The bytes of a number. -/
def write : ByteOrder → (width value : Nat) → Bytes
  | .mostSignificantFirst, width, value => Bytes.ofNat width value
  | .leastSignificantFirst, width, value => (Bytes.ofNat width value).reverse

end ByteOrder

/-- Pieces of a fixed length; the last may be shorter. -/
def pieces {α : Type} (width : Nat) (items : List α) : List (List α) :=
  if width = 0 ∨ items = [] then []
  else items.take width :: pieces width (items.drop width)
termination_by items.length
decreasing_by
  rename_i h
  simp only [not_or] at h
  have := List.length_pos_iff.mpr h.2
  simp only [List.length_drop]
  omega

/-- A message completed to whole blocks of `block` bytes, where the last `field` bytes hold its
length in bits. -/
def padded (order : ByteOrder) (block field : Nat) (message : Bytes) : Bytes :=
  let used := (message.length + 1 + field) % block
  message ++ [0x80] ++ List.replicate ((block - used) % block) 0
    ++ order.write field (8 * message.length)

/-- The blocks of a message, each as words of `width` bytes. -/
def blocks (order : ByteOrder) (block field width : Nat) (message : Bytes) : List (List Nat) :=
  (pieces block (padded order block field message)).map fun block =>
    (pieces width block).map order.read

end EdgeFleet.Digest
