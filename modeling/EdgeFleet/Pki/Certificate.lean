import EdgeFleet.Pki.Extension
import EdgeFleet.Pki.Key
import EdgeFleet.Pki.Name
import EdgeFleet.Pki.Validity

/-!
# Certificates

A certificate binds a name to a public key for a time, by the word of an issuer. `Certificate.read?`
reads one and leaves alone what follows it. `Statement` is what an issuer puts its signature under,
and `Statement.certificate` is the certificate made of it.
-/

namespace EdgeFleet.Pki

open Der Crypto

/-- A certificate as it is read. -/
structure Certificate where
  /-- The part that the signature is for. -/
  signed : Bytes
  /-- The number of the certificate, as it stands. -/
  serial : Bytes
  issuer : Name
  notBefore : Int
  notAfter : Int
  subject : Name
  publicKey : PublicKey
  extensions : List Extension
  algorithm : Algorithm
  signature : Bytes
  deriving Repr, DecidableEq

namespace Certificate

/-- The version, if there is one. -/
def version : Reader Unit := do
  match ← Reader.atPlace? 0 with
  | some element =>
    let number ← StateT.lift (Reader.inside Reader.natural element.content)
    guard (number < 0x100000000)
  | none => return ()

/-- The extensions, if there is something left. -/
def extensionsReader : Reader (List Extension) := do
  if (← get).isEmpty then return []
  else
    let found ← Reader.element
    guard (found.tag.number = 3)
    StateT.lift (Reader.inside Extension.listReader found.content)

/-- Reads a certificate. -/
def reader : Reader Certificate :=
  .within .sequence do
    let ((serial, issuer, (notBefore, notAfter), subject, publicKey, extensions), signed) ←
      Reader.sequenceWithBytes do
        version
        let serial ← Reader.typed .integer
        let _ ← Algorithm.reader
        let issuer ← Name.reader
        let period ← Validity.reader
        let subject ← Name.reader
        let publicKey ← PublicKey.reader
        let _ ← Reader.atPlace? 1
        let _ ← Reader.atPlace? 2
        return (serial.content, issuer, period, subject, publicKey, ← extensionsReader)
    let algorithm ← Algorithm.reader
    let signature ← Reader.bitString
    return { signed, serial, issuer, notBefore, notAfter, subject, publicKey, extensions,
             algorithm, signature }

/-- The certificate at the front of a byte string. -/
def read? (bytes : Bytes) : Option Certificate :=
  Reader.inside reader bytes

/-- The name of the holder. -/
def commonName? (certificate : Certificate) : Option String :=
  certificate.subject.commonName?

/-- Whether the certificate bears the signature of the holder of a key. -/
def isSignedBy (suite : Suite) (certificate : Certificate) (key : PublicKey) : Bool :=
  match certificate.algorithm.scheme? key.algorithm with
  | some scheme => suite.isSignature scheme key.bits certificate.signed certificate.signature
  | none => false

/-- The content of the extension of a kind, if there is exactly one. -/
def extension? (certificate : Certificate) (kind : Oid) : Option Bytes :=
  match certificate.extensions.filter fun extension => extension.kind = kind with
  | [extension] => some extension.content
  | _ => none

/-- What the key may be used for. -/
def keyUsage? (certificate : Certificate) : Option (List KeyUsage) := do
  KeyUsage.read? (← certificate.extension? Extension.keyUsageKind)

/-- For what purposes the certificate may be shown. -/
def purposes? (certificate : Certificate) : Option (List Oid) := do
  Extension.readPurposes? (← certificate.extension? Extension.purposesKind)

/-- Whether the holder is an authority, and how many authorities may be below it. -/
def constraints? (certificate : Certificate) : Option (Bool × Option Nat) := do
  Extension.readConstraints? (← certificate.extension? Extension.constraintsKind)

/-- Further names of the holder. -/
def altNames (certificate : Certificate) : List AltName :=
  ((do AltName.read? (← certificate.extension? Extension.altNamesKind)) : Option _).getD []

/-- Whether what is said of the use of the key can be taken over by an issuer: it is said at most
once, and readably. -/
def hasClearUsage (certificate : Certificate) : Bool :=
  match certificate.extensions.filter fun extension =>
    extension.kind = Extension.keyUsageKind with
  | [] => true
  | [extension] => (KeyUsage.read? extension.content).isSome
  | _ => false

end Certificate

/-- What an issuer puts its signature under. -/
structure Statement where
  serial : Nat
  issuer : PlainName
  notBefore : Int
  notAfter : Int
  subject : PlainName
  /-- The family and the bits of the public key. -/
  keyKind : KeyKind
  keyBits : Bytes
  extensions : List Extension
  deriving Repr, DecidableEq

namespace Statement

/-- A statement as bytes, for an issuer with a key of a family. -/
def bytes (statement : Statement) (issuerKind : KeyKind) : Bytes :=
  Tag.sequence.of [
    (Tag.place 0).of [integer 2],
    integer statement.serial,
    Algorithm.signatureBytes issuerKind,
    statement.issuer.bytes,
    Validity.bytes statement.notBefore statement.notAfter,
    statement.subject.bytes,
    PublicKey.write statement.keyKind statement.keyBits,
    (Tag.place 3).of [Extension.listBytes statement.extensions]]

/-- The certificate for a statement, signed with a key. -/
def certificate (suite : Suite) (statement : Statement) (key : PrivateKey) : Bytes :=
  let signed := statement.bytes key.kind
  Tag.sequence.of
    [signed, Algorithm.signatureBytes key.kind, bitString (suite.sign key.secret signed)]

end Statement

end EdgeFleet.Pki
