import EdgeFleet.Crypto.Ecdsa
import EdgeFleet.Crypto.Edwards
import EdgeFleet.Crypto.Rsa
import EdgeFleet.Der.Reader

/-!
# Secrets and signatures

The three operations on keys that certificates rest on are the fields of a `Suite`: the public half
of a secret, a signature, and the check of a signature. All that is said of certificates holds for
any suite; `Suite.standard` is the one that programs use.
-/

namespace EdgeFleet.Crypto

/-- A family of keys. -/
inductive KeyKind where
  | rsa
  | elliptic (curve : Curve)
  | edwards
  deriving Repr, DecidableEq

/-- A way to make signatures. -/
inductive Scheme where
  | rsa (hash : Hash)
  | rsaSalted (hash : Hash)
  | ecdsa (curve : Curve) (hash : Hash)
  | edwards
  deriving Repr, DecidableEq

/-- A secret key. -/
inductive Secret where
  | rsa (key : Rsa.SecretKey)
  | elliptic (curve : Curve) (number : Nat)
  | edwards (seed : Bytes)
  deriving Repr, DecidableEq

namespace Secret

/-- The family of a secret. -/
def kind : Secret → KeyKind
  | .rsa _ => .rsa
  | .elliptic curve _ => .elliptic curve
  | .edwards _ => .edwards

end Secret

/-- The digest that keys of a curve sign over. -/
def Curve.hash : Curve → Hash
  | .p256 => .sha256
  | .p384 => .sha384

/-- The way in which keys of a family sign. -/
def KeyKind.scheme : KeyKind → Scheme
  | .rsa => .rsa .sha256
  | .elliptic curve => .ecdsa curve curve.hash
  | .edwards => .edwards

/-- The operations on keys that certificates rest on. -/
structure Suite where
  /-- The public half of a secret. -/
  publicKey : Secret → Bytes
  /-- A signature of a message, made in the way of the secret's family. -/
  sign : Secret → Bytes → Bytes
  /-- Whether a signature belongs to a public key and a message. -/
  isSignature : Scheme → (key message signature : Bytes) → Bool

namespace Suite

open Der

/-- A public key of two numbers as bytes. -/
def rsaKey (key : Rsa.PublicKey) : Bytes :=
  Tag.sequence.of [integer key.modulus, integer key.exponent]

/-- Two numbers above zero in a structure. -/
def readPair? (bytes : Bytes) : Option (Nat × Nat) :=
  Reader.inside
    (do
      let pair ← Reader.exactlyWithin .sequence do
        return (← Reader.exactNatural, ← Reader.exactNatural)
      Reader.ended
      guard (0 < pair.1 && 0 < pair.2)
      return pair)
    bytes

/-- A signature on a curve as bytes. -/
def ecdsaSignature (signature : Ecdsa.Signature) : Bytes :=
  Tag.sequence.of [integer signature.r, integer signature.s]

/-- The least number of binary digits of a modulus for signatures over a digest. -/
def leastBits : Hash → Nat
  | .sha1 => 1024
  | _ => 2048

/-- The public key in bytes, if signatures over a digest may be checked with it. -/
def readRsaKey? (hash : Hash) (bytes : Bytes) : Option Rsa.PublicKey := do
  let (modulus, exponent) ← readPair? bytes
  let key : Rsa.PublicKey := ⟨modulus, exponent⟩
  guard (key.isSound (leastBits hash) 8192 3)
  return key

/-- The suite that programs use. -/
def standard : Suite where
  publicKey
    | .rsa key => rsaKey key.publicKey
    | .elliptic curve number => curve.publicKey number
    | .edwards seed => Edwards.publicKey seed
  sign secret message :=
    match secret with
    | .rsa key => Rsa.sign key .sha256 message
    | .elliptic curve number =>
      ecdsaSignature (Ecdsa.sign curve number (curve.hash.digest message))
    | .edwards seed => Edwards.sign seed message
  isSignature scheme key message signature :=
    match scheme with
    | .rsa hash =>
      (readRsaKey? hash key).any fun key => Rsa.isSignature key hash message signature
    | .rsaSalted hash =>
      (readRsaKey? hash key).any fun key => Rsa.isSaltedSignature key hash message signature
    | .ecdsa curve hash =>
      (curve.decode? key).any fun point =>
        (readPair? signature).any fun (r, s) =>
          Ecdsa.isSignature curve point (hash.digest message) ⟨r, s⟩
    | .edwards => Edwards.isSignature key message signature

end Suite

end EdgeFleet.Crypto
