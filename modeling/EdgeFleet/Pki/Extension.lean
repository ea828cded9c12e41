import EdgeFleet.Der.Reader

/-!
# What certificates say of their use

Extensions say whether a certificate is an authority, what its key may be used for, and under which
other names its holder is known. An extension is read as a name and a content; the content is
looked at only by those who ask for what it says.
-/

namespace EdgeFleet.Pki

open Der

/-- A statement in a certificate or a request. -/
structure Extension where
  kind : Oid
  critical : Bool
  content : Bytes
  deriving Repr, DecidableEq

/-- What the key of a certificate may be used for. The constructors are in the order of their
bits. -/
inductive KeyUsage where
  | digitalSignature
  | nonRepudiation
  | keyEncipherment
  | dataEncipherment
  | keyAgreement
  | certificateSigning
  | revocationSigning
  | encipherOnly
  | decipherOnly
  deriving Repr, DecidableEq

namespace KeyUsage

/-- All uses in the order of their bits. -/
def all : List KeyUsage :=
  [.digitalSignature, .nonRepudiation, .keyEncipherment, .dataEncipherment, .keyAgreement,
    .certificateSigning, .revocationSigning, .encipherOnly, .decipherOnly]

/-- The readable form of a use. -/
def name : KeyUsage → String
  | .digitalSignature => "Digital Signature"
  | .nonRepudiation => "Non Repudiation"
  | .keyEncipherment => "Key Encipherment"
  | .dataEncipherment => "Data Encipherment"
  | .keyAgreement => "Key Agreement"
  | .certificateSigning => "Key Cert Sign"
  | .revocationSigning => "CRL Sign"
  | .encipherOnly => "Encipher Only"
  | .decipherOnly => "Decipher Only"

/-- The bits for uses, the first bit highest, without zeros at the end. -/
def bytes (uses : List KeyUsage) : Bytes :=
  let bits := all.map fun use => uses.contains use
  let bits := (bits.reverse.dropWhile (!·)).reverse
  let width := (bits.length + 7) / 8
  let value := bits.foldl (fun value bit => value * 2 + bit.toNat) 0
  let spare := 8 * width - bits.length
  Tag.bitString.of [.ofNat spare :: Bytes.ofNat width (value * Nat.pow 2 spare)]

/-- Reads uses. -/
def read? (content : Bytes) : Option (List KeyUsage) := do
  let bytes ← Reader.inside Reader.bitString content
  return (all.zipIdx.filter fun (_, place) =>
    (bytes.getD (place / 8) 0).toNat.testBit (7 - place % 8)).map (·.1)

end KeyUsage

/-- A name under which a holder is known besides the one of the certificate. -/
inductive AltName where
  | dns (name : String)
  | address (bytes : Bytes)
  | email (mailbox : String)
  | uri (text : String)
  | other (element : Element)
  /-- A form that no certificate here is made for. -/
  | unsupported
  deriving Repr, DecidableEq

namespace AltName

/-- The name in an element. -/
def ofElement (element : Element) : AltName :=
  match ascii? with
  | some text =>
    match element.tag.number with
    | 1 => .email text
    | 2 => .dns text
    | 6 => .uri text
    | 7 => .address element.content
    | 0 => .other element
    | _ => .unsupported
  | none =>
    match element.tag.number with
    | 7 => .address element.content
    | 0 => .other element
    | _ => .unsupported
where
  /-- The content as text of ASCII characters. -/
  ascii? : Option String :=
    if element.content.all fun byte => byte.toNat < 128 then element.content.text? else none

/-- Whether a certificate can be made out for a name. -/
def isSupported : AltName → Bool
  | .address bytes => bytes.length == 4 || bytes.length == 16
  | .other element =>
    (Reader.inside
      (do let _ ← Reader.oid; let found ← Reader.atPlace? 0; guard found.isSome)
      element.content).isSome
  | .unsupported => false
  | _ => true

/-- A name as bytes. -/
def bytes : AltName → Bytes
  | .dns name => (Tag.plainPlace 2).of [.ofText name]
  | .address bytes => (Tag.plainPlace 7).of [bytes]
  | .email mailbox => (Tag.plainPlace 1).of [.ofText mailbox]
  | .uri text => (Tag.plainPlace 6).of [.ofText text]
  | .other element => element.bytes
  | .unsupported => []

/-- Reads a list of names. -/
def read? (content : Bytes) : Option (List AltName) :=
  (Reader.inside (.within .sequence (.all .element)) content).map fun elements =>
    elements.map ofElement

end AltName

/-- The purpose of servers that show who they are. -/
def serverPurpose : Oid := .ofPath [1, 3, 6, 1, 5, 5, 7, 3, 1]

/-- The purpose of clients that show who they are. -/
def clientPurpose : Oid := .ofPath [1, 3, 6, 1, 5, 5, 7, 3, 2]

namespace Extension

/-- The kind that tells a key by its digest. -/
def keyIdentifierKind : Oid := .ofPath [2, 5, 29, 14]

/-- The kind that says what the key may be used for. -/
def keyUsageKind : Oid := .ofPath [2, 5, 29, 15]

/-- The kind with further names of the holder. -/
def altNamesKind : Oid := .ofPath [2, 5, 29, 17]

/-- The kind that says whether the holder is an authority. -/
def constraintsKind : Oid := .ofPath [2, 5, 29, 19]

/-- The kind that says for what purpose the certificate may be shown. -/
def purposesKind : Oid := .ofPath [2, 5, 29, 37]

/-- Reads an extension. -/
def reader : Reader Extension :=
  .within .sequence do
    let kind ← Reader.oid
    let flag ← Reader.optional (Reader.typed .boolean)
    let content ← Reader.octetString
    return ⟨kind, flag.any fun element => element.content.any (· != 0), content⟩

/-- Reads a list of extensions, with nothing in it that is none. -/
def listReader : Reader (List Extension) :=
  .within .sequence (.all reader)

/-- An extension as bytes. -/
def bytes (extension : Extension) : Bytes :=
  Tag.sequence.of
    [extension.kind.bytes, if extension.critical then boolean true else [],
      Tag.octetString.of [extension.content]]

/-- A list of extensions as bytes. -/
def listBytes (extensions : List Extension) : Bytes :=
  Tag.sequence.of (extensions.map bytes)

/-- Says what the key may be used for. -/
def keyUsage (uses : List KeyUsage) : Extension :=
  ⟨keyUsageKind, true, KeyUsage.bytes uses⟩

/-- Says for what purposes the certificate may be shown. -/
def purposes (purposes : List Oid) : Extension :=
  ⟨purposesKind, false, Tag.sequence.of (purposes.map Oid.bytes)⟩

/-- Gives further names of the holder. -/
def altNames (names : List AltName) : Extension :=
  ⟨altNamesKind, false, Tag.sequence.of (names.map AltName.bytes)⟩

/-- Says that the holder is an authority, with at most a number of authorities below it. -/
def authority (depth : Nat) : Extension :=
  ⟨constraintsKind, true, Tag.sequence.of [boolean true, integer depth]⟩

/-- Tells a key by its digest. -/
def keyIdentifier (digest : Bytes) : Extension :=
  ⟨keyIdentifierKind, false, Tag.octetString.of [digest]⟩

/-- Whether the holder is an authority, and how many authorities may be below it. -/
def readConstraints? (content : Bytes) : Option (Bool × Option Nat) :=
  Reader.inside
    (.within .sequence do
      let flag ← Reader.optional (Reader.typed .boolean)
      let depth ← Reader.optional Reader.natural
      Reader.ended
      return (flag.any fun element => element.content.any (· != 0), depth))
    content

/-- The purposes for which a certificate may be shown. -/
def readPurposes? (content : Bytes) : Option (List Oid) :=
  Reader.inside (.within .sequence (.all Reader.oid)) content

/-- The digest that tells a key. -/
def readKeyIdentifier? (content : Bytes) : Option Bytes :=
  Reader.inside Reader.octetString content

end Extension

end EdgeFleet.Pki
