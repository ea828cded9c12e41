import EdgeFleet.Digest.Block

/-!
# The digest SHA-1

Twenty bytes for a message. Each block is stretched to eighty words, which run through eighty steps
on five words. It serves only to check old signatures.
-/

namespace EdgeFleet.Digest.Sha1

/-- The five words that blocks are folded into. -/
structure State where
  a : UInt32
  b : UInt32
  c : UInt32
  d : UInt32
  e : UInt32
  deriving Repr, DecidableEq

/-- The state before the first block. -/
def State.start : State := ⟨0x67452301, 0xefcdab89, 0x98badcfe, 0x10325476, 0xc3d2e1f0⟩

/-- A word turned to the left. -/
def rotate (word distance : UInt32) : UInt32 :=
  (word <<< distance) ||| (word >>> (32 - distance))

/-- The words of a block and those computed from them. The newest come first while they are
computed. -/
def schedule (block : List Nat) : List UInt32 :=
  let stretch (words : List UInt32) (_ : Nat) : List UInt32 :=
    rotate (words.getD 2 0 ^^^ words.getD 7 0 ^^^ words.getD 13 0 ^^^ words.getD 15 0) 1 :: words
  ((List.range 64).foldl stretch (block.map UInt32.ofNat).reverse).reverse

/-- How a step mixes three words, and the word it adds. -/
def mix (round : Nat) (b c d : UInt32) : UInt32 :=
  match round with
  | 0 => ((b &&& c) ||| (~~~b &&& d)) + 0x5a827999
  | 1 => (b ^^^ c ^^^ d) + 0x6ed9eba1
  | 2 => ((b &&& c) ||| (b &&& d) ||| (c &&& d)) + 0x8f1bbcdc
  | _ => (b ^^^ c ^^^ d) + 0xca62c1d6

/-- One step. -/
def step (state : State) (indexed : UInt32 × Nat) : State :=
  let (word, index) := indexed
  let sum := rotate state.a 5 + mix (index / 20) state.b state.c state.d + state.e + word
  ⟨sum, state.a, rotate state.b 30, state.c, state.d⟩

/-- The state after a block. -/
def compress (state : State) (block : List Nat) : State :=
  let last := (schedule block).zipIdx.foldl step state
  ⟨state.a + last.a, state.b + last.b, state.c + last.c, state.d + last.d, state.e + last.e⟩

/-- The digest of a message. -/
def digest (message : Bytes) : Bytes :=
  let last := (blocks .mostSignificantFirst 64 8 4 message).foldl compress .start
  [last.a, last.b, last.c, last.d, last.e].flatMap fun word => Bytes.ofNat 4 word.toNat

end EdgeFleet.Digest.Sha1
