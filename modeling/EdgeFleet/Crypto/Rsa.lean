import EdgeFleet.Crypto.Hash
import EdgeFleet.Crypto.Modular

/-!
# Signatures by powers modulo a product of primes

A signature is a root of the padded digest. `PublicKey.power` undoes it. Of the two paddings, the
first is fixed by the digest, and the second is salted.
-/

namespace EdgeFleet.Crypto.Rsa

/-- A public key. -/
structure PublicKey where
  modulus : Nat
  exponent : Nat
  deriving Repr, DecidableEq

/-- A secret key, with the factors of the modulus and what speeds up work with them. -/
structure SecretKey where
  publicKey : PublicKey
  exponent : Nat
  p : Nat
  q : Nat
  exponentP : Nat
  exponentQ : Nat
  coefficient : Nat
  deriving Repr, DecidableEq

/-- The number of binary digits of a number. -/
def bitLength (value : Nat) : Nat :=
  if value = 0 then 0 else Nat.log2 value + 1

namespace PublicKey

/-- The number of binary digits of the modulus. -/
def bits (key : PublicKey) : Nat := bitLength key.modulus

/-- The bytes of the modulus, and of every signature. -/
def width (key : PublicKey) : Nat := (key.bits + 7) / 8

/-- Whether a key can be worked with: its modulus has at least the given number of binary digits,
up to a whole byte, and at most the other number of them. -/
def isSound (key : PublicKey) (least most leastExponent : Nat) : Bool :=
  least ≤ 8 * key.width && key.bits ≤ most && key.modulus % 2 == 1 &&
    key.exponent % 2 == 1 && leastExponent ≤ key.exponent && bitLength key.exponent ≤ 33

/-- The padded digest that bytes are a root of. -/
def power? (key : PublicKey) (signature : Bytes) : Option Bytes :=
  let value := signature.toNat
  if signature.length = key.width && 0 < value && value < key.modulus then
    some (Bytes.ofNat key.width (powMod key.modulus value key.exponent))
  else none

end PublicKey

/-- What stands before a digest to tell which one it is. -/
def label : Hash → Bytes
  | .sha1 => [0x30, 0x21, 0x30, 0x09, 0x06, 0x05, 0x2b, 0x0e, 0x03, 0x02, 0x1a, 0x05, 0x00,
      0x04, 0x14]
  | .sha256 => nist 0x31 0x01 0x20
  | .sha384 => nist 0x41 0x02 0x30
  | .sha512 => nist 0x51 0x03 0x40
where
  /-- The label with a length, a number of the digest and a length of the digest. -/
  nist (total number width : UInt8) : Bytes :=
    [0x30, total, 0x30, 0x0d, 0x06, 0x09, 0x60, 0x86, 0x48, 0x01, 0x65, 0x03, 0x04, 0x02, number,
      0x05, 0x00, 0x04, width]

/-- The fixed padding of a message to a width. -/
def padded (hash : Hash) (width : Nat) (message : Bytes) : Bytes :=
  let tail := label hash ++ hash.digest message
  [0, 1] ++ List.replicate (width - tail.length - 3) 0xff ++ [0] ++ tail

/-- Signs a message over the fixed padding. -/
def sign (key : SecretKey) (hash : Hash) (message : Bytes) : Bytes :=
  let width := key.publicKey.width
  Bytes.ofNat width
    (powMod key.publicKey.modulus (Bytes.toNat (padded hash width message)) key.exponent)

/-- Whether a signature over the fixed padding belongs to a message and to a public key. -/
def isSignature (key : PublicKey) (hash : Hash) (message signature : Bytes) : Bool :=
  match key.power? signature with
  | some value =>
    (label hash).length + hash.width + 11 ≤ key.width && value == padded hash key.width message
  | none => false

/-- Bytes that a seed is stretched to. -/
def stretch (hash : Hash) (seed : Bytes) (length : Nat) : Bytes :=
  ((List.range ((length + hash.width - 1) / hash.width)).flatMap fun index =>
    hash.digest (seed ++ Bytes.ofNat 4 index)).take length

/-- Whether a signature over the salted padding, with a salt as long as the digest, belongs to a
message and to a public key. -/
def isSaltedSignature (key : PublicKey) (hash : Hash) (message signature : Bytes) : Bool :=
  match key.power? signature with
  | none => false
  | some value =>
    let bits := key.bits - 1
    let length := (bits + 7) / 8
    let spare := 8 * length - bits
    let encoded := value.drop (value.length - length)
    let masked := encoded.take (length - hash.width - 1)
    let check := (encoded.drop (length - hash.width - 1)).take hash.width
    let block := (masked.zip (stretch hash check masked.length)).map fun (a, b) => a ^^^ b
    let block := block.modifyHead fun byte => .ofNat (byte.toNat % Nat.pow 2 (8 - spare))
    let salt := block.drop (block.length - hash.width)
    2 * hash.width + 2 ≤ length &&
      (value.take (value.length - length)).all (· == 0) &&
      encoded.getLast? == some 0xbc &&
      (masked.headD 0).toNat < Nat.pow 2 (8 - spare) &&
      block.take (block.length - hash.width)
        == List.replicate (block.length - hash.width - 1) 0 ++ [1] &&
      hash.digest (List.replicate 8 0 ++ hash.digest message ++ salt) == check

end EdgeFleet.Crypto.Rsa
