import EdgeFleet.Crypto.Suite

/-!
# Names of algorithms

How documents name a family of keys and a way to make signatures. A way to sign on a curve is named
without the curve, which is told by the key.
-/

namespace EdgeFleet.Pki

open Der Crypto

/-- An algorithm, with its parameters. -/
structure Algorithm where
  name : Oid
  parameters : Option Element
  deriving Repr, DecidableEq

namespace Algorithm

/-- Keys for powers modulo a product of primes. -/
def rsaEncryption : Oid := .ofPath [1, 2, 840, 113549, 1, 1, 1]

/-- The salted padding. -/
def rsaSalted : Oid := .ofPath [1, 2, 840, 113549, 1, 1, 10]

/-- The fixed padding of a digest. -/
def rsaWith : Hash → Oid
  | .sha1 => .ofPath [1, 2, 840, 113549, 1, 1, 5]
  | .sha256 => .ofPath [1, 2, 840, 113549, 1, 1, 11]
  | .sha384 => .ofPath [1, 2, 840, 113549, 1, 1, 12]
  | .sha512 => .ofPath [1, 2, 840, 113549, 1, 1, 13]

/-- Another name for the fixed padding of the oldest digest. -/
def rsaWithSha1 : Oid := .ofPath [1, 3, 14, 3, 2, 29]

/-- Points on an elliptic curve. -/
def ellipticKey : Oid := .ofPath [1, 2, 840, 10045, 2, 1]

/-- The name of a curve. -/
def curve : Curve → Oid
  | .p256 => .ofPath [1, 2, 840, 10045, 3, 1, 7]
  | .p384 => .ofPath [1, 3, 132, 0, 34]

/-- Signatures on a curve over the digest that goes with the curve. -/
def ecdsaWith : Curve → Oid
  | .p256 => .ofPath [1, 2, 840, 10045, 4, 3, 2]
  | .p384 => .ofPath [1, 2, 840, 10045, 4, 3, 3]

/-- Keys and signatures on the Edwards curve. -/
def edwards : Oid := .ofPath [1, 3, 101, 112]

/-- The name of a digest of the newer families. -/
def digest : Hash → Oid
  | .sha1 => .ofPath [1, 3, 14, 3, 2, 26]
  | .sha256 => .ofPath [2, 16, 840, 1, 101, 3, 4, 2, 1]
  | .sha384 => .ofPath [2, 16, 840, 1, 101, 3, 4, 2, 2]
  | .sha512 => .ofPath [2, 16, 840, 1, 101, 3, 4, 2, 3]

/-- Reads an algorithm. -/
def reader : Reader Algorithm :=
  .within .sequence do
    let name ← Reader.oid
    if (← get).isEmpty then return ⟨name, none⟩ else return ⟨name, some (← Reader.element)⟩

/-- The content of the name of a family of keys. -/
def keyContent : KeyKind → Bytes
  | .rsa => rsaEncryption.bytes ++ null
  | .elliptic named => ellipticKey.bytes ++ (curve named).bytes
  | .edwards => edwards.bytes

/-- The name of the way in which keys of a family sign. -/
def signatureBytes : KeyKind → Bytes
  | .rsa => Tag.sequence.of [(rsaWith .sha256).bytes, null]
  | .elliptic named => Tag.sequence.of [(ecdsaWith named).bytes]
  | .edwards => Tag.sequence.of [edwards.bytes]

/-- The curve that parameters name. -/
def curve? (algorithm : Algorithm) : Option Curve := do
  let parameters ← algorithm.parameters
  guard (parameters.tag.number = Tag.oid.number)
  [Curve.p256, Curve.p384].find? fun named => (curve named).content = parameters.content

/-- The digest that parameters name for the salted padding. -/
def saltedHash? (algorithm : Algorithm) : Option Hash := do
  let parameters ← algorithm.parameters
  guard (parameters.tag.number = Tag.sequence.number)
  let named ← Reader.inside (Reader.atPlace? 0) parameters.content
  let algorithm ← Reader.inside Algorithm.reader (← named).content
  [Hash.sha256, Hash.sha384, Hash.sha512].find? fun hash => digest hash = algorithm.name

/-- The way in which a signature was made, by its own algorithm and that of the key. -/
def scheme? (signature key : Algorithm) : Option Scheme :=
  let name := signature.name
  if name = rsaWithSha1 then some (.rsa .sha1)
  else
    match [Hash.sha1, .sha256, .sha384, .sha512].find? fun hash => rsaWith hash = name with
    | some hash => some (.rsa hash)
    | none =>
      if name = rsaSalted then signature.saltedHash?.map .rsaSalted
      else if name = edwards then some .edwards
      else
        match [Curve.p256, .p384].find? fun named => ecdsaWith named = name with
        | some named => key.curve?.map fun curve => .ecdsa curve named.hash
        | none => none

/-- The family of keys that the name of a way to sign stands for by itself. A name that tells only
the digest stands for the curve that goes with it. -/
def kind? (signature : Algorithm) : Option KeyKind :=
  let name := signature.name
  if [Hash.sha256, .sha384, .sha512].any fun hash => rsaWith hash = name then some .rsa
  else if name = edwards then some .edwards
  else ([Curve.p256, .p384].find? fun named => ecdsaWith named = name).map .elliptic

end Algorithm

end EdgeFleet.Pki
