import EdgeFleet.Digest.Block

/-!
# The digest MD5

Sixteen bytes for a message. Each block runs through sixty-four steps on four words.
-/

namespace EdgeFleet.Digest.Md5

/-- The four words that blocks are folded into. -/
structure State where
  a : UInt32
  b : UInt32
  c : UInt32
  d : UInt32
  deriving Repr, DecidableEq

/-- The state before the first block. -/
def State.start : State := ⟨0x67452301, 0xefcdab89, 0x98badcfe, 0x10325476⟩

/-- The word added in each step: the fraction of a sine, scaled. -/
def sines : List UInt32 := [
  0xd76aa478, 0xe8c7b756, 0x242070db, 0xc1bdceee, 0xf57c0faf, 0x4787c62a, 0xa8304613, 0xfd469501,
  0x698098d8, 0x8b44f7af, 0xffff5bb1, 0x895cd7be, 0x6b901122, 0xfd987193, 0xa679438e, 0x49b40821,
  0xf61e2562, 0xc040b340, 0x265e5a51, 0xe9b6c7aa, 0xd62f105d, 0x02441453, 0xd8a1e681, 0xe7d3fbc8,
  0x21e1cde6, 0xc33707d6, 0xf4d50d87, 0x455a14ed, 0xa9e3e905, 0xfcefa3f8, 0x676f02d9, 0x8d2a4c8a,
  0xfffa3942, 0x8771f681, 0x6d9d6122, 0xfde5380c, 0xa4beea44, 0x4bdecfa9, 0xf6bb4b60, 0xbebfbc70,
  0x289b7ec6, 0xeaa127fa, 0xd4ef3085, 0x04881d05, 0xd9d4d039, 0xe6db99e5, 0x1fa27cf8, 0xc4ac5665,
  0xf4292244, 0x432aff97, 0xab9423a7, 0xfc93a039, 0x655b59c3, 0x8f0ccc92, 0xffeff47d, 0x85845dd1,
  0x6fa87e4f, 0xfe2ce6e0, 0xa3014314, 0x4e0811a1, 0xf7537e82, 0xbd3af235, 0x2ad7d2bb, 0xeb86d391]

/-- The four distances of rotation in a round. -/
def rotations (round : Nat) : List UInt32 :=
  match round with
  | 0 => [7, 12, 17, 22]
  | 1 => [5, 9, 14, 20]
  | 2 => [4, 11, 16, 23]
  | _ => [6, 10, 15, 21]

/-- A word turned to the left. -/
def rotate (word distance : UInt32) : UInt32 :=
  (word <<< distance) ||| (word >>> (32 - distance))

/-- How a step of a round mixes three words. -/
def mix (round : Nat) (b c d : UInt32) : UInt32 :=
  match round with
  | 0 => (b &&& c) ||| (~~~b &&& d)
  | 1 => (d &&& b) ||| (~~~d &&& c)
  | 2 => b ^^^ c ^^^ d
  | _ => c ^^^ (b ||| ~~~d)

/-- The word of the block that a step takes. -/
def place (step : Nat) : Nat :=
  match step / 16 with
  | 0 => step
  | 1 => (5 * step + 1) % 16
  | 2 => (3 * step + 5) % 16
  | _ => 7 * step % 16

/-- One step. -/
def step (block : List Nat) (state : State) (index : Nat) : State :=
  let round := index / 16
  let sum := state.a + mix round state.b state.c state.d + sines.getD index 0
    + .ofNat (block.getD (place index) 0)
  let turned := rotate sum ((rotations round).getD (index % 4) 0)
  ⟨state.d, state.b + turned, state.b, state.c⟩

/-- The state after a block. -/
def compress (state : State) (block : List Nat) : State :=
  let last := (List.range 64).foldl (step block) state
  ⟨state.a + last.a, state.b + last.b, state.c + last.c, state.d + last.d⟩

/-- The digest of a message. -/
def digest (message : Bytes) : Bytes :=
  let last := (blocks .leastSignificantFirst 64 8 4 message).foldl compress .start
  [last.a, last.b, last.c, last.d].flatMap fun word =>
    ByteOrder.leastSignificantFirst.write 4 word.toNat

end EdgeFleet.Digest.Md5
