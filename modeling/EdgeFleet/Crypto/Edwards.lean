import EdgeFleet.Crypto.Hash
import EdgeFleet.Crypto.Modular

/-!
# Signatures on the Edwards curve

The curve is `y² - x² = 1 + d x² y²` modulo `2 ^ 255 - 19`. Its addition has no exceptions. A key is
a seed of 32 bytes; the digest of the seed gives the secret number and what nonces are made from.
-/

namespace EdgeFleet.Crypto.Edwards

/-- The prime that coordinates are taken modulo. -/
def prime : Nat := Nat.pow 2 255 - 19

/-- The constant of the equation. -/
def constant : Nat := 0x52036cee2b6ffe738cc740797779e89800700a4d4141d8ab75eb4dca135978a3

/-- The order of the group. -/
def order : Nat := Nat.pow 2 252 + 27742317777372353535851937790883648493

/-- A square root of minus one. -/
def rootOfMinusOne : Nat := powMod prime 2 ((prime - 1) / 4)

/-- A point with a denominator: it stands for `(x / z, y / z)`, and `t` is `x y / z`. -/
structure Point where
  x : Nat
  y : Nat
  z : Nat
  t : Nat
  deriving Repr, DecidableEq

namespace Point

/-- The point with two coordinates. -/
def ofPair (x y : Nat) : Point := ⟨x, y, 1, x * y % prime⟩

/-- The zero of the group. -/
def zero : Point := ofPair 0 1

/-- The point that generates the group. -/
def generator : Point :=
  ofPair 0x216936d3cd6e53fec0a4e231fdd6dc5c692cc7609525a7b2c9562d608f25d51a
    0x6666666666666666666666666666666666666666666666666666666666666658

/-- The sum of two points. -/
def add (p q : Point) : Point :=
  let a := subMod prime p.y p.x * subMod prime q.y q.x % prime
  let b := (p.y + p.x) * (q.y + q.x) % prime
  let c := 2 * p.t * q.t * constant % prime
  let d := 2 * p.z * q.z % prime
  let e := subMod prime b a
  let f := subMod prime d c
  let g := d + c
  let h := b + a
  ⟨e * f % prime, g * h % prime, f * g % prime, e * h % prime⟩

/-- A multiple of a point. -/
def multiply (factor : Nat) (point : Point) : Point :=
  (binary factor).foldl
    (fun sum bit => let twice := add sum sum; if bit then add twice point else twice)
    zero

/-- The point on the other side. -/
def negate (point : Point) : Point :=
  { point with x := subMod prime 0 point.x, t := subMod prime 0 point.t }

/-- A point as bytes: the height, the lowest byte first, with one bit of the other coordinate. -/
def encode (point : Point) : Bytes :=
  let inverse := inverseMod prime point.z
  let x := point.x * inverse % prime
  let y := point.y * inverse % prime
  (Bytes.ofNat 32 (y + x % 2 * Nat.pow 2 255)).reverse

/-- The point that bytes stand for. -/
def decode? (bytes : Bytes) : Option Point := do
  guard (bytes.length = 32)
  let value := Bytes.toNat bytes.reverse
  let y := value % Nat.pow 2 255 % prime
  let numerator := subMod prime (y * y % prime) 1
  let square := numerator * inverseMod prime (constant * y % prime * y + 1) % prime
  let candidate := powMod prime square ((prime + 3) / 8)
  let x ←
    if candidate * candidate % prime = square then some candidate
    else
      let turned := candidate * rootOfMinusOne % prime
      if turned * turned % prime = square then some turned else none
  return ofPair (if x % 2 = value / Nat.pow 2 255 then x else subMod prime 0 x) y

end Point

/-- The secret number of a seed. -/
def secret (seed : Bytes) : Nat :=
  let half := Bytes.toNat ((Hash.sha512.digest seed).take 32).reverse
  half % Nat.pow 2 254 / 8 * 8 + Nat.pow 2 254

/-- The public key of a seed. -/
def publicKey (seed : Bytes) : Bytes :=
  (Point.multiply (secret seed) .generator).encode

/-- The number of a message, modulo the order. -/
def number (message : Bytes) : Nat :=
  Bytes.toNat (Hash.sha512.digest message).reverse % order

/-- Signs a message. -/
def sign (seed message : Bytes) : Bytes :=
  let nonce := number ((Hash.sha512.digest seed).drop 32 ++ message)
  let point := (Point.multiply nonce .generator).encode
  let challenge := number (point ++ publicKey seed ++ message)
  point ++ (Bytes.ofNat 32 ((nonce + challenge * secret seed) % order)).reverse

/-- Whether a signature belongs to a message and to a public key. -/
def isSignature (key message signature : Bytes) : Bool :=
  let point := signature.take 32
  let scalar := Bytes.toNat (signature.drop 32).reverse
  match Point.decode? key with
  | some holder =>
    signature.length == 64 && scalar < order &&
      (Point.add (.multiply scalar .generator)
        (.multiply (number (point ++ key ++ message)) holder.negate)).encode == point
  | none => false

end EdgeFleet.Crypto.Edwards
