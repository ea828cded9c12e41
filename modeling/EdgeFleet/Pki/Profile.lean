import EdgeFleet.Crypto.Hash
import EdgeFleet.Pki.Extension
import EdgeFleet.Pki.Name

/-!
# What certificates are to say of their holders

A profile is what a certificate is to say of the holder of a key: names, what the key may be used
for, and whether the holder is an authority. A request asks for a profile, one extension after
another (`Profile.take?`); an issuer may put another one in its place. `Profile.extensions` is the
profile as it stands in a certificate.
-/

namespace EdgeFleet.Pki

open Der Crypto

/-- What a holder is among authorities. -/
inductive Role where
  /-- Nothing is said of it. -/
  | plain
  /-- The holder is no authority, and this is said. -/
  | subordinate
  /-- The holder is an authority, perhaps with at most a number of authorities below it. -/
  | authority (depth : Option Nat)
  deriving Repr, DecidableEq

/-- What a certificate is to say of its holder. -/
structure Profile where
  subject : PlainName
  altNames : List AltName
  keyUsages : List KeyUsage
  purposes : List Oid
  role : Role
  /-- What tells the key of an authority, unless its digest is to do so. -/
  keyIdentifier : Option Bytes
  deriving Repr, DecidableEq

/-- Says what a holder is among authorities. -/
def Role.extension? : Role → Option Extension
  | .plain => none
  | .subordinate => some ⟨Extension.constraintsKind, true, Tag.sequence.of [boolean false]⟩
  | .authority none => some ⟨Extension.constraintsKind, true, Tag.sequence.of [boolean true]⟩
  | .authority (some depth) => some (.authority depth)

namespace Profile

/-- The profile of a name alone. -/
def named (subject : PlainName) : Profile :=
  ⟨subject, [], [], [], .plain, none⟩

/-- Takes over what an extension asks for, unless no certificate here can say it. -/
def take? (profile : Profile) (extension : Extension) : Option Profile := do
  if extension.kind = Extension.keyUsageKind then
    return { profile with keyUsages := ← KeyUsage.read? extension.content }
  else if extension.kind = Extension.purposesKind then
    return { profile with purposes := ← Extension.readPurposes? extension.content }
  else if extension.kind = Extension.altNamesKind then
    let names ← AltName.read? extension.content
    guard (names.all AltName.isSupported)
    return { profile with altNames := profile.altNames ++ names }
  else if extension.kind = Extension.constraintsKind then
    let (isAuthority, depth) ← Extension.readConstraints? extension.content
    return { profile with role := if isAuthority then .authority depth else .subordinate }
  else if extension.kind = Extension.keyIdentifierKind then
    return { profile with
      keyIdentifier := some (← Extension.readKeyIdentifier? extension.content) }
  else none

/-- A profile as it stands in a certificate for a key. The key is told only where something is said
of authorities. -/
def extensions (profile : Profile) (keyBits : Bytes) : List Extension :=
  let identifier := profile.keyIdentifier.getD ((Hash.sha256.digest keyBits).take 20)
  (if profile.altNames.isEmpty then [] else [.altNames profile.altNames]) ++
    (if profile.keyUsages.isEmpty then [] else [.keyUsage profile.keyUsages]) ++
    (if profile.purposes.isEmpty then [] else [.purposes profile.purposes]) ++
    match profile.role.extension? with
    | some constraints => [.keyIdentifier identifier, constraints]
    | none => []

end Profile

end EdgeFleet.Pki
