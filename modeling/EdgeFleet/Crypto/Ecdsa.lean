import EdgeFleet.Crypto.Hash
import EdgeFleet.Crypto.Modular

/-!
# Signatures on elliptic curves

The two curves here are given by `y² = x³ - 3x + b` modulo a prime. Points are added in coordinates
with a common denominator (`Point`), so that one division is enough at the end. `sign` and
`isSignature` are the two halves of the signature scheme over the group of points.
-/

namespace EdgeFleet.Crypto

/-- A curve with a point that generates a group of prime order. -/
inductive Curve where
  | p256
  | p384
  deriving Repr, DecidableEq

namespace Curve

/-- The bytes of a coordinate. -/
def width : Curve → Nat
  | .p256 => 32
  | .p384 => 48

/-- The prime that coordinates are taken modulo. -/
def prime : Curve → Nat
  | .p256 => Nat.pow 2 256 - Nat.pow 2 224 + Nat.pow 2 192 + Nat.pow 2 96 - 1
  | .p384 => Nat.pow 2 384 - Nat.pow 2 128 - Nat.pow 2 96 + Nat.pow 2 32 - 1

/-- The constant of the equation. -/
def constant : Curve → Nat
  | .p256 => 0x5ac635d8aa3a93e7b3ebbd55769886bc651d06b0cc53b0f63bce3c3e27d2604b
  | .p384 => 0xb3312fa7e23ee7e4988e056be3f82d19181d9c6efe8141120314088f5013875ac656398d8a2ed19d2a85c8edd3ec2aef

/-- The order of the group. -/
def order : Curve → Nat
  | .p256 => 0xffffffff00000000ffffffffffffffffbce6faada7179e84f3b9cac2fc632551
  | .p384 => 0xffffffffffffffffffffffffffffffffffffffffffffffffc7634d81f4372ddf581a0db248b0a77aecec196accc52973

/-- The point that generates the group. -/
def generator : Curve → Nat × Nat
  | .p256 => (0x6b17d1f2e12c4247f8bce6e563a440f277037d812deb33a0f4a13945d898c296,
      0x4fe342e2fe1a7f9b8ee7eb4a7c0f9e162bce33576b315ececbb6406837bf51f5)
  | .p384 => (0xaa87ca22be8b05378eb1c71ef320ad746e1d3b628ba79b9859f741e082542a385502f25dbf55296c3a545e3872760ab7,
      0x3617de4a96262c6f5d9e98bf9292dc29f8f41dbd289a147ce9da3113b5f0b8c00a60b1ce1d7e819d7a431d7c90ea0e5f)

/-- A point with a denominator: it stands for `(x / z², y / z³)`, and for none if `z` is zero. -/
structure Point where
  x : Nat
  y : Nat
  z : Nat
  deriving Repr, DecidableEq

/-- The point at infinity, which is the zero of the group. -/
def Point.zero : Point := ⟨1, 1, 0⟩

/-- The point with two coordinates. -/
def Point.ofPair (pair : Nat × Nat) : Point := ⟨pair.1, pair.2, 1⟩

section

variable (curve : Curve)

/-- The double of a point. -/
def double (point : Point) : Point :=
  let p := curve.prime
  let delta := point.z * point.z % p
  let gamma := point.y * point.y % p
  let beta := point.x * gamma % p
  let slope := 3 * subMod p point.x delta * (point.x + delta) % p
  let x := subMod p (slope * slope % p) (8 * beta % p)
  ⟨x, subMod p (slope * subMod p (4 * beta % p) x % p) (8 * gamma * gamma % p),
    2 * point.y * point.z % p⟩

/-- The sum of two points. -/
def add (a b : Point) : Point :=
  if a.z = 0 then b
  else if b.z = 0 then a
  else
    let p := curve.prime
    let aa := a.z * a.z % p
    let bb := b.z * b.z % p
    let u := a.x * bb % p
    let s := a.y * (b.z * bb % p) % p
    let h := subMod p (b.x * aa % p) u
    let r := subMod p (b.y * (a.z * aa % p) % p) s
    if h = 0 then (if r = 0 then curve.double a else .zero)
    else
      let hh := h * h % p
      let hhh := h * hh % p
      let v := u * hh % p
      let x := subMod p (subMod p (r * r % p) hhh) (2 * v % p)
      ⟨x, subMod p (r * subMod p v x % p) (s * hhh % p), a.z * b.z % p * h % p⟩

/-- A multiple of a point. -/
def multiply (factor : Nat) (point : Point) : Point :=
  (binary factor).foldl
    (fun sum bit =>
      let twice := curve.double sum
      if bit then curve.add twice point else twice)
    .zero

/-- The coordinates of a point, unless it is the zero. -/
def toPair? (point : Point) : Option (Nat × Nat) :=
  if point.z = 0 then none
  else
    let inverse := inverseMod curve.prime point.z
    let square := inverse * inverse % curve.prime
    some (point.x * square % curve.prime, point.y * (square * inverse % curve.prime) % curve.prime)

/-- Whether coordinates are below the prime and fulfil the equation. -/
def contains (pair : Nat × Nat) : Bool :=
  let (x, y) := pair
  let p := curve.prime
  x < p && y < p && y * y % p == (x * x * x + (p - 3) * x + curve.constant) % p

/-- A point as bytes: a mark and the coordinates. -/
def encode (pair : Nat × Nat) : Bytes :=
  4 :: Bytes.ofNat curve.width pair.1 ++ Bytes.ofNat curve.width pair.2

/-- The point that bytes stand for. -/
def decode? (bytes : Bytes) : Option (Nat × Nat) :=
  match bytes with
  | 4 :: coordinates =>
    let pair := (Bytes.toNat (coordinates.take curve.width),
      Bytes.toNat (coordinates.drop curve.width))
    if coordinates.length = 2 * curve.width && curve.contains pair then some pair else none
  | _ => none

/-- The bytes of the public key that belongs to a secret number. -/
def publicKey (secret : Nat) : Bytes :=
  match curve.toPair? (curve.multiply secret (.ofPair curve.generator)) with
  | some pair => curve.encode pair
  | none => []

end

end Curve

namespace Ecdsa

/-- A signature. -/
structure Signature where
  r : Nat
  s : Nat
  deriving Repr, DecidableEq

/-- The number that a digest enters computations as: its leading bytes, as many as the order of the
group has. -/
def number (curve : Curve) (digest : Bytes) : Nat :=
  Bytes.toNat (digest.take curve.width) % curve.order

/-- The signature with a given nonce. A few nonces give none. -/
def signWith? (curve : Curve) (secret : Nat) (digest : Bytes) (nonce : Nat) : Option Signature := do
  let (x, _) ← curve.toPair? (curve.multiply nonce (.ofPair curve.generator))
  let r := x % curve.order
  let sum := (number curve digest + r * secret) % curve.order
  let s := inverseMod curve.order nonce * sum % curve.order
  if r = 0 || s = 0 then none else return ⟨r, s⟩

/-- A nonce that nobody can tell without the secret, and that differs with the digest. -/
def nonce (curve : Curve) (secret : Nat) (digest : Bytes) (attempt : Nat) : Nat :=
  let mixed := Hash.sha512.digest
    (Bytes.ofNat curve.width secret ++ digest ++ Bytes.ofNat 1 attempt)
  Bytes.toNat mixed % (curve.order - 1) + 1

/-- Signs a digest with the first nonce that gives a signature. -/
def sign (curve : Curve) (secret : Nat) (digest : Bytes) : Signature :=
  ((List.range 256).findSome? fun attempt =>
    signWith? curve secret digest (nonce curve secret digest attempt)).getD ⟨0, 0⟩

/-- Whether a signature belongs to a digest and to a public key. -/
def isSignature (curve : Curve) (key : Nat × Nat) (digest : Bytes) (signature : Signature) : Bool :=
  let n := curve.order
  let inRange (value : Nat) : Bool := 0 < value && value < n
  let inverse := inverseMod n signature.s
  let sum := curve.add
    (curve.multiply (number curve digest * inverse % n) (.ofPair curve.generator))
    (curve.multiply (signature.r * inverse % n) (.ofPair key))
  inRange signature.r && inRange signature.s &&
    match curve.toPair? sum with
    | some (x, _) => x % n == signature.r
    | none => false

end Ecdsa

end EdgeFleet.Crypto
