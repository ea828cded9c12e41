import EdgeFleet.Digest.Md5
import EdgeFleet.Pki.Algorithm
import EdgeFleet.Pki.Pem

/-!
# Keys as documents

A public key stands in certificates and requests, and its digest is the name of whoever holds the
secret (`PublicKey.holder`). A secret key is a document of its own. `PrivateKey.read?` takes only
documents that are written with the fewest bytes and whose parts agree with each other, and
`PrivateKey.generate` makes one.
-/

namespace EdgeFleet.Pki

open Der Crypto Text

/-- A public key as it stands in a document. -/
structure PublicKey where
  algorithm : Algorithm
  bits : Bytes
  /-- The whole of it, as it stands. -/
  bytes : Bytes
  deriving Repr, DecidableEq

namespace PublicKey

/-- Reads a public key. -/
def reader : Reader PublicKey := do
  let ((algorithm, bits), bytes) ← Reader.sequenceWithBytes do
    return (← Algorithm.reader, ← Reader.bitString)
  return ⟨algorithm, bits, bytes⟩

/-- A public key of a family as it is written. -/
def write (kind : KeyKind) (bits : Bytes) : Bytes :=
  Tag.sequence.of [Tag.sequence.of [Algorithm.keyContent kind], bitString bits]

/-- The name of the holder of a public key: the digest of the key. -/
def holder (bytes : Bytes) : String :=
  Base64.url.encode (Digest.Md5.digest bytes)

end PublicKey

/-- A secret key and the document that holds it. -/
structure PrivateKey where
  secret : Secret
  document : Bytes
  deriving Repr, DecidableEq

namespace PrivateKey

/-- The bits in the content of a string of bits, none of them spare. -/
def wholeBits? (content : Bytes) : Option Bytes :=
  match content with
  | 0 :: bits => some bits
  | _ => none

/-- Whether the next element has a tag. -/
def nextIs (tag : Tag) : Reader Bool := do
  return tag.write.isPrefixOf (← get)

/-- The secret part of a document for a family of keys, and the public part, which later versions of
the document have. -/
def envelope (kind : KeyKind) : Reader (Bytes × Option Bytes) := do
  let version ← Reader.exactNatural
  guard (version = 0 || (version = 1 && kind = .edwards))
  let algorithm ← Reader.exactly .sequence
  guard (algorithm = Algorithm.keyContent kind)
  let secret ← Reader.exactly .octetString
  if ← nextIs (.place 0) then
    let _ ← Reader.exactly (.place 0)
  if version = 0 then return (secret, none)
  else
    let content ←
      if ← nextIs (.place 1) then
        Reader.exactlyWithin (.place 1) (Reader.exactly .bitString)
      else Reader.exactly (.plainPlace 1)
    return (secret, some (← StateT.lift (wholeBits? content)))

/-- The seed of a key on the Edwards curve. -/
def edwardsSecret : Reader Secret := do
  let seed ← Reader.exactly .octetString
  Reader.ended
  guard (seed.length = 32)
  return .edwards seed

/-- The number of a key on an elliptic curve, and its public part. -/
def ellipticSecret (curve : Curve) : Reader (Secret × Bytes) := do
  let found ← Reader.exactlyWithin .sequence do
    let version ← Reader.exactNatural
    guard (version = 1)
    let bytes ← Reader.exactly .octetString
    let number := bytes.toNat
    guard (bytes.length = curve.width && 0 < number && number < curve.order)
    if ← nextIs (.place 0) then
      let named ← Reader.exactly (.place 0)
      guard (named = (Algorithm.curve curve).bytes)
    let content ← Reader.exactlyWithin (.place 1) (Reader.exactly .bitString)
    return (Secret.elliptic curve number, ← StateT.lift (wholeBits? content))
  Reader.ended
  return found

/-- Whether the numbers of a key belong together. -/
def isConsistent (key : Rsa.SecretKey) : Bool :=
  let half := key.publicKey.bits / 2
  key.publicKey.isSound 2048 4096 65537 && key.publicKey.bits % 1024 == 0 &&
    Rsa.bitLength key.p == half && Rsa.bitLength key.q == half &&
    key.p * key.q == key.publicKey.modulus &&
    key.exponent % 2 == 1 && half < Rsa.bitLength key.exponent &&
    key.exponent < key.publicKey.modulus &&
    key.exponentP % 2 == 1 && key.exponentP < key.p &&
    key.exponentQ % 2 == 1 && key.exponentQ < key.q &&
    key.coefficient < key.p && key.coefficient * key.q % key.p == 1

/-- The numbers of a key for powers modulo a product of primes. -/
def rsaSecret : Reader Secret := do
  let key ← Reader.exactlyWithin .sequence do
    let version ← Reader.exactNatural
    guard (version = 0)
    let modulus ← Reader.exactNatural
    let exponent ← Reader.exactNatural
    return (⟨⟨modulus, exponent⟩, ← Reader.exactNatural, ← Reader.exactNatural,
      ← Reader.exactNatural, ← Reader.exactNatural, ← Reader.exactNatural,
      ← Reader.exactNatural⟩ : Rsa.SecretKey)
  Reader.ended
  guard (isConsistent key)
  return .rsa key

/-- The secret of a family in a document, if the parts of the document agree. -/
def secret? (suite : Suite) (kind : KeyKind) (document : Bytes) : Option Secret := do
  let ((content, shown), _) ←
    (do
      let found ← Reader.exactlyWithin .sequence (envelope kind)
      Reader.ended
      return found : Reader (Bytes × Option Bytes)).run document
  match kind with
  | .edwards =>
    let secret ← Reader.inside edwardsSecret content
    guard (shown.all fun bits => bits = suite.publicKey secret)
    return secret
  | .elliptic curve =>
    let (secret, bits) ← Reader.inside (ellipticSecret curve) content
    guard (bits = suite.publicKey secret)
    return secret
  | .rsa => Reader.inside rsaSecret content

/-- The families of keys that documents may hold. -/
def kinds : List KeyKind := [.edwards, .elliptic .p256, .elliptic .p384, .rsa]

/-- Reads a document. -/
def read? (suite : Suite) (document : Bytes) : Option PrivateKey :=
  (kinds.findSome? fun kind => secret? suite kind document).map fun secret => ⟨secret, document⟩

/-- The document for a number on an elliptic curve. -/
def write (suite : Suite) (curve : Curve) (number : Nat) : Bytes :=
  Tag.sequence.of [
    integer 0,
    Tag.sequence.of [Algorithm.keyContent (.elliptic curve)],
    Tag.octetString.of [
      Tag.sequence.of [
        integer 1,
        Tag.octetString.of [Bytes.ofNat curve.width number],
        Tag.of (.place 1) [bitString (suite.publicKey (.elliptic curve number))]]]]

/-- A new key, from bytes that nobody can guess. -/
def generate (suite : Suite) (entropy : Bytes) : PrivateKey :=
  let number := entropy.toNat % (Curve.p256.order - 1) + 1
  ⟨.elliptic .p256 number, write suite .p256 number⟩

/-- The key in the first block of a text. -/
def ofText? (suite : Suite) (text : String) : Option PrivateKey := do
  read? suite (← Pem.parse? text).content

/-- A key as text. -/
def text (key : PrivateKey) : String :=
  Pem.render ⟨"PRIVATE KEY", key.document⟩

/-- The family of a key. -/
def kind (key : PrivateKey) : KeyKind := key.secret.kind

end PrivateKey

end EdgeFleet.Pki
