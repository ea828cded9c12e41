import EdgeFleet.Digest.Block

/-!
# The digests of the family SHA-2

One scheme in two word lengths. The family with words of 32 bits gives `sha256`, the one with words
of 64 bits gives `sha384` and `sha512`. Its constants are the fractions of roots of the first
primes; the shorter words are the leading halves of the longer ones.
-/

namespace EdgeFleet.Digest.Sha2

/-- What the two word lengths differ in. -/
structure Family (ω : Type) where
  /-- The bytes of a word. -/
  width : Nat
  ofNat : Nat → ω
  toNat : ω → Nat
  /-- A word turned to the right. -/
  rotate : ω → Nat → ω
  /-- A word shifted to the right. -/
  shift : ω → Nat → ω
  /-- The distances of rotation for the first and the fifth word of the state. -/
  first : Nat × Nat × Nat
  fifth : Nat × Nat × Nat
  /-- Two rotations and a shift for the words that lie fifteen and two places back. -/
  far : Nat × Nat × Nat
  near : Nat × Nat × Nat
  /-- The word added in each step. -/
  constants : List ω

/-- Fractions of the cube roots of the first eighty primes. -/
def cubeRoots : List Nat := [
  0x428a2f98d728ae22, 0x7137449123ef65cd, 0xb5c0fbcfec4d3b2f, 0xe9b5dba58189dbbc,
  0x3956c25bf348b538, 0x59f111f1b605d019, 0x923f82a4af194f9b, 0xab1c5ed5da6d8118,
  0xd807aa98a3030242, 0x12835b0145706fbe, 0x243185be4ee4b28c, 0x550c7dc3d5ffb4e2,
  0x72be5d74f27b896f, 0x80deb1fe3b1696b1, 0x9bdc06a725c71235, 0xc19bf174cf692694,
  0xe49b69c19ef14ad2, 0xefbe4786384f25e3, 0x0fc19dc68b8cd5b5, 0x240ca1cc77ac9c65,
  0x2de92c6f592b0275, 0x4a7484aa6ea6e483, 0x5cb0a9dcbd41fbd4, 0x76f988da831153b5,
  0x983e5152ee66dfab, 0xa831c66d2db43210, 0xb00327c898fb213f, 0xbf597fc7beef0ee4,
  0xc6e00bf33da88fc2, 0xd5a79147930aa725, 0x06ca6351e003826f, 0x142929670a0e6e70,
  0x27b70a8546d22ffc, 0x2e1b21385c26c926, 0x4d2c6dfc5ac42aed, 0x53380d139d95b3df,
  0x650a73548baf63de, 0x766a0abb3c77b2a8, 0x81c2c92e47edaee6, 0x92722c851482353b,
  0xa2bfe8a14cf10364, 0xa81a664bbc423001, 0xc24b8b70d0f89791, 0xc76c51a30654be30,
  0xd192e819d6ef5218, 0xd69906245565a910, 0xf40e35855771202a, 0x106aa07032bbd1b8,
  0x19a4c116b8d2d0c8, 0x1e376c085141ab53, 0x2748774cdf8eeb99, 0x34b0bcb5e19b48a8,
  0x391c0cb3c5c95a63, 0x4ed8aa4ae3418acb, 0x5b9cca4f7763e373, 0x682e6ff3d6b2b8a3,
  0x748f82ee5defb2fc, 0x78a5636f43172f60, 0x84c87814a1f0ab72, 0x8cc702081a6439ec,
  0x90befffa23631e28, 0xa4506cebde82bde9, 0xbef9a3f7b2c67915, 0xc67178f2e372532b,
  0xca273eceea26619c, 0xd186b8c721c0c207, 0xeada7dd6cde0eb1e, 0xf57d4f7fee6ed178,
  0x06f067aa72176fba, 0x0a637dc5a2c898a6, 0x113f9804bef90dae, 0x1b710b35131c471b,
  0x28db77f523047d84, 0x32caab7b40c72493, 0x3c9ebe0a15c9bebc, 0x431d67c49c100d4c,
  0x4cc5d4becb3e42b6, 0x597f299cfc657e2a, 0x5fcb6fab3ad6faec, 0x6c44198c4a475817]

/-- Fractions of the square roots of the first sixteen primes. -/
def squareRoots : List Nat := [
  0x6a09e667f3bcc908, 0xbb67ae8584caa73b, 0x3c6ef372fe94f82b, 0xa54ff53a5f1d36f1,
  0x510e527fade682d1, 0x9b05688c2b3e6c1f, 0x1f83d9abfb41bd6b, 0x5be0cd19137e2179,
  0xcbbb9d5dc1059ed8, 0x629a292a367cd507, 0x9159015a3070dd17, 0x152fecd8f70e5939,
  0x67332667ffc00b31, 0x8eb44a8768581511, 0xdb0c2e0d64f98fa7, 0x47b5481dbefa4fa4]

/-- The family with words of 32 bits. -/
def short : Family UInt32 where
  width := 4
  ofNat := .ofNat
  toNat := UInt32.toNat
  rotate word distance := (word >>> .ofNat distance) ||| (word <<< .ofNat (32 - distance))
  shift word distance := word >>> .ofNat distance
  first := (2, 13, 22)
  fifth := (6, 11, 25)
  far := (7, 18, 3)
  near := (17, 19, 10)
  constants := (cubeRoots.take 64).map fun root => .ofNat (root / 0x100000000)

/-- The family with words of 64 bits. -/
def long : Family UInt64 where
  width := 8
  ofNat := .ofNat
  toNat := UInt64.toNat
  rotate word distance := (word >>> .ofNat distance) ||| (word <<< .ofNat (64 - distance))
  shift word distance := word >>> .ofNat distance
  first := (28, 34, 39)
  fifth := (14, 18, 41)
  far := (1, 8, 7)
  near := (19, 61, 6)
  constants := cubeRoots.map .ofNat

/-- The eight words that blocks are folded into. -/
structure State (ω : Type) where
  a : ω
  b : ω
  c : ω
  d : ω
  e : ω
  f : ω
  g : ω
  h : ω

/-- The words of a state in order. -/
def State.toList {ω : Type} (state : State ω) : List ω :=
  [state.a, state.b, state.c, state.d, state.e, state.f, state.g, state.h]

section

variable {ω : Type} [Add ω] [AndOp ω] [XorOp ω] [Complement ω] (family : Family ω)

/-- Three turns of a word, combined. -/
def turns (distances : Nat × Nat × Nat) (word : ω) : ω :=
  family.rotate word distances.1 ^^^ family.rotate word distances.2.1
    ^^^ family.rotate word distances.2.2

/-- Two turns of a word and a shift of it, combined. -/
def shifts (distances : Nat × Nat × Nat) (word : ω) : ω :=
  family.rotate word distances.1 ^^^ family.rotate word distances.2.1
    ^^^ family.shift word distances.2.2

/-- The words of a block and those computed from them, one for each step. The newest come first
while they are computed. -/
def schedule (block : List Nat) : List ω :=
  let stretch (words : List ω) (_ : Nat) : List ω :=
    let back (distance : Nat) : ω := words.getD (distance - 1) (family.ofNat 0)
    (back 16 + shifts family family.far (back 15) + back 7
      + shifts family family.near (back 2)) :: words
  ((List.range (family.constants.length - 16)).foldl stretch
    (block.map family.ofNat).reverse).reverse

/-- One step, with the word of the schedule and the constant of the step. -/
def step (state : State ω) (inputs : ω × ω) : State ω :=
  let (word, constant) := inputs
  let choice := (state.e &&& state.f) ^^^ (~~~state.e &&& state.g)
  let majority := (state.a &&& state.b) ^^^ (state.a &&& state.c) ^^^ (state.b &&& state.c)
  let lower := state.h + turns family family.fifth state.e + choice + constant + word
  let upper := turns family family.first state.a + majority
  ⟨lower + upper, state.a, state.b, state.c, state.d + lower, state.e, state.f, state.g⟩

/-- The state after a block. -/
def compress (state : State ω) (block : List Nat) : State ω :=
  let last := ((schedule family block).zip family.constants).foldl (step family) state
  ⟨state.a + last.a, state.b + last.b, state.c + last.c, state.d + last.d,
    state.e + last.e, state.f + last.f, state.g + last.g, state.h + last.h⟩

/-- The bytes of the state after a message. -/
def digest (start : State ω) (message : Bytes) : Bytes :=
  let width := family.width
  let last := (blocks .mostSignificantFirst (16 * width) (2 * width) width message).foldl
    (compress family) start
  last.toList.flatMap fun word => Bytes.ofNat width (family.toNat word)

end

/-- A state made of eight numbers. -/
def State.ofList {ω : Type} (convert : Nat → ω) (numbers : List Nat) : State ω :=
  let word (place : Nat) : ω := convert (numbers.getD place 0)
  ⟨word 0, word 1, word 2, word 3, word 4, word 5, word 6, word 7⟩

end EdgeFleet.Digest.Sha2

namespace EdgeFleet.Digest

/-- The digest of 32 bytes. -/
def sha256 (message : Bytes) : Bytes :=
  let start := .ofList (fun root => .ofNat (root / 0x100000000)) Sha2.squareRoots
  Sha2.digest Sha2.short start message

/-- The digest of 64 bytes. -/
def sha512 (message : Bytes) : Bytes :=
  Sha2.digest Sha2.long (.ofList .ofNat Sha2.squareRoots) message

/-- The digest of 48 bytes: a longer one from another start, cut. -/
def sha384 (message : Bytes) : Bytes :=
  (Sha2.digest Sha2.long (.ofList .ofNat (Sha2.squareRoots.drop 8)) message).take 48

end EdgeFleet.Digest
