import EdgeFleet.Pki.Certificate
import EdgeFleet.Pki.Profile

/-!
# Requests for certificates

Whoever holds a secret asks for a certificate by signing a request with it. A request asks for a
profile besides, which is read (`Request.profile?`) and refused where no certificate here could say
it.
-/

namespace EdgeFleet.Pki

open Der Crypto

/-- A request as it is read. -/
structure Request where
  /-- The part that the signature is for. -/
  signed : Bytes
  subject : Name
  publicKey : PublicKey
  /-- The extensions asked for, in the lists in which they are. -/
  extensions : List (List Extension)
  algorithm : Algorithm
  signature : Bytes
  deriving Repr, DecidableEq

namespace Request

/-- The kind of remark that asks for extensions. -/
def extensionsKind : Oid := .ofPath [1, 2, 840, 113549, 1, 9, 14]

/-- Reads a remark, and the extensions that it asks for if it does. -/
def remark : Reader (Option (List Extension)) :=
  .within .sequence do
    let kind ← Reader.oid
    let found ← Reader.element
    guard (found.tag.number = Tag.set.number)
    if kind = extensionsKind then
      return some (← StateT.lift (Reader.inside Extension.listReader found.content))
    else return none

/-- The remarks at the end of a request. -/
def remarks : Reader (List (List Extension)) := do
  let found ← Reader.element
  if found.content.isEmpty then return []
  else
    guard (found.tag.family = .context && found.tag.number = 0)
    let remarks ← StateT.lift (Reader.inside (.all remark) found.content)
    return remarks.filterMap id

/-- Reads a request. -/
def reader : Reader Request :=
  .within .sequence do
    let ((subject, publicKey, extensions), signed) ← Reader.sequenceWithBytes do
      let version ← Reader.natural
      guard (version < 0x100000000)
      return (← Name.reader, ← PublicKey.reader, ← remarks)
    let algorithm ← Algorithm.reader
    let signature ← Reader.bitString
    return { signed, subject, publicKey, extensions, algorithm, signature }

/-- The request at the front of a byte string. -/
def read? (bytes : Bytes) : Option Request :=
  Reader.inside reader bytes

/-- Whether the request bears the signature of the holder of its key. -/
def isSigned (suite : Suite) (request : Request) : Bool :=
  match request.algorithm.scheme? request.publicKey.algorithm with
  | some scheme =>
    suite.isSignature scheme request.publicKey.bits request.signed request.signature
  | none => false

/-- The extensions asked for. Only the first list counts. -/
def requested (request : Request) : List Extension :=
  request.extensions.headD []

/-- The profile asked for, unless no certificate here can say it. -/
def profile? (request : Request) : Option Profile := do
  request.requested.foldlM Profile.take? (.named (← PlainName.ofName? request.subject))

/-- A request for a certificate, which asks for nothing but the key. -/
def write (suite : Suite) (key : PrivateKey) : Bytes :=
  let signed := Tag.sequence.of [
    integer 0,
    PlainName.bytes [],
    PublicKey.write key.kind (suite.publicKey key.secret),
    (Tag.place 0).of []]
  Tag.sequence.of
    [signed, Algorithm.signatureBytes key.kind, bitString (suite.sign key.secret signed)]

end Request

end EdgeFleet.Pki
