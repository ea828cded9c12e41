import EdgeFleet.Net.Address
import EdgeFleet.Pki.Request
import EdgeFleet.Pki.Verification

/-!
# The authority

An authority is a secret key and a certificate that carries its public half. It gives certificates
to nodes that ask (`Authority.answer`) and to servers (`Authority.serverCertificate`). A node's name
is the digest of its key, whatever it asks for. All certificates expire together with that of the
authority.
-/

namespace EdgeFleet.Pki

open Crypto

/-- The organization in the certificates of new authorities. -/
def rootOrganization : String := "Edge Controller Authority"

/-- How long the certificate of an authority is good for: three years. -/
def rootLifetime : Int := 3 * 365 * 86400

/-- How far the start of an authority is put back, for clocks that are late. -/
def clockSkew : Int := 15

/-- An authority. -/
structure Authority where
  key : PrivateKey
  /-- The certificate, as text. -/
  certificate : String
  /-- When its certificate expires, and every other that it gives out. -/
  expiry : Int
  deriving Repr, DecidableEq

/-- The label of certificates in texts. -/
def certificateLabel : String := "CERTIFICATE"

/-- A number for a certificate from sixteen bytes that nobody can guess. -/
def serialNumber (entropy : Bytes) : Nat :=
  entropy.toNat % Nat.pow 2 127

/-- Whether a text holds a certificate that carries the public half of a key. -/
def carries (suite : Suite) (text : String) (key : PrivateKey) : Bool :=
  match Certificate.ofText .certificate text with
  | .ok certificate => certificate.publicKey.bits == suite.publicKey key.secret
  | .error _ => false

/-- The certificate by which a key vouches for itself as an authority over holders, but not over
other authorities. -/
def rootStatement (suite : Suite) (key : PrivateKey) (serial : Nat) (now : Int) : Statement :=
  let name := PlainName.single organizationKind rootOrganization
  let bits := suite.publicKey key.secret
  { serial
    issuer := name
    notBefore := now - clockSkew
    notAfter := now + rootLifetime
    subject := name
    keyKind := key.kind
    keyBits := bits
    extensions := [
      .keyUsage [.certificateSigning, .revocationSigning],
      .keyIdentifier ((Hash.sha256.digest bits).take 20),
      .authority 0] }

/-- The certificate of a new authority, as text. -/
def rootCertificate (suite : Suite) (key : PrivateKey) (serial : Nat) (now : Int) : String :=
  Pem.render ⟨certificateLabel, (rootStatement suite key serial now).certificate suite key⟩

/-- The profile of a node that is known under a name, in place of the one that it asks for. -/
def Profile.forNode (asked : Profile) (holder : String) : Profile :=
  { asked with
    subject := .single commonNameKind holder
    altNames := []
    role := .plain
    keyUsages := [.digitalSignature, .keyEncipherment]
    purposes := [clientPurpose, serverPurpose] }

namespace Authority

/-- The authority with a key and a certificate, which must belong together. -/
def make (suite : Suite) (certificate : String) (key : PrivateKey) : Except Fault Authority :=
  match Certificate.ofText .caCertificate certificate with
  | .ok read =>
    if read.publicKey.bits = suite.publicKey key.secret then
      .ok ⟨key, certificate, read.notAfter⟩
    else .error .certificateKeyMismatch
  | .error _ => .error .certificateKeyMismatch

/-- The authority whose certificate and key are texts. -/
def ofTexts (suite : Suite) (certificate key : String) : Except Fault Authority :=
  match PrivateKey.ofText? suite key with
  | some key => make suite certificate key
  | none => .error (.unreadable .caKey)

/-- The certificates that are needed to check those given out, the authority's own last. -/
def chain (authority : Authority) : List String := [authority.certificate]

/-- The name that the authority signs under, taken from its certificate. -/
def name (authority : Authority) : Except Fault PlainName :=
  match Certificate.ofText .caCertificate authority.certificate with
  | .ok certificate =>
    match PlainName.ofName? certificate.subject with
    | some name => if certificate.hasClearUsage then .ok name else .error .noIssuer
    | none => .error .noIssuer
  | .error _ => .error .noIssuer

/-- The text of the certificate that the authority gives out for a statement. -/
def issue (suite : Suite) (authority : Authority) (statement : Statement) : String :=
  Pem.render ⟨certificateLabel, statement.certificate suite authority.key⟩

/-- What the authority states of a node, which has asked for a profile: its key under the name that
follows from it, for talking to others and being talked to. -/
def nodeStatement (authority : Authority) (issuer : PlainName) (kind : KeyKind)
    (publicKey : PublicKey) (asked : Profile) (serial : Nat) (now : Int) : Statement :=
  let profile := asked.forNode (PublicKey.holder publicKey.bytes)
  { serial
    issuer
    notBefore := now
    notAfter := authority.expiry
    subject := profile.subject
    keyKind := kind
    keyBits := publicKey.bits
    extensions := profile.extensions publicKey.bits }

/-- Answers a request with a certificate. The key is written as one of the family that the request
is signed in. -/
def answer (suite : Suite) (authority : Authority) (serial : Nat) (now : Int) (request : Bytes) :
    Except Fault String := do
  let some request := Request.read? request | throw .unreadableRequest
  unless request.isSigned suite do throw .badRequestSignature
  let some kind := request.algorithm.kind? | throw .unreadableRequest
  let some asked := request.profile? | throw .unreadableRequest
  let issuer ← authority.name
  return authority.issue suite
    (authority.nodeStatement issuer kind request.publicKey asked serial now)

/-- The names that a server is known under besides the one of its certificate: an address if the
name is one, else the name itself if it is in ASCII. -/
def serverNames (name : String) : List AltName :=
  match Net.Address.parse? name with
  | some address => [.address address.bytes]
  | none => if name.toList.all fun c => c.toNat < 128 then [.dns name] else []

/-- What the authority states of a server. -/
def serverStatement (suite : Suite) (authority : Authority) (issuer : PlainName)
    (key : PrivateKey) (name : String) (serial : Nat) (now : Int) : Statement :=
  let names := serverNames name
  { serial
    issuer
    notBefore := now
    notAfter := authority.expiry
    subject := .single commonNameKind name
    keyKind := key.kind
    keyBits := suite.publicKey key.secret
    extensions :=
      (if names.isEmpty then [] else [Extension.altNames names]) ++
        [.keyUsage [.digitalSignature], .purposes [serverPurpose]] }

/-- Gives a certificate to a server. -/
def serverCertificate (suite : Suite) (authority : Authority) (serial : Nat) (now : Int)
    (key : PrivateKey) (name : String) : Except Fault String := do
  let issuer ← authority.name
  return authority.issue suite (authority.serverStatement suite issuer key name serial now)

end Authority

/-- A key and the request that it signed. -/
structure Enrollment where
  key : PrivateKey
  request : Bytes
  deriving Repr, DecidableEq

namespace Enrollment

/-- The request of a key. -/
def ofKey (suite : Suite) (key : PrivateKey) : Enrollment :=
  ⟨key, Request.write suite key⟩

/-- The request of the key in a text. -/
def ofText (suite : Suite) (text : String) : Except Fault Enrollment :=
  match PrivateKey.ofText? suite text with
  | some key => .ok (ofKey suite key)
  | none => .error (.unreadable .nodeKey)

end Enrollment

end EdgeFleet.Pki
