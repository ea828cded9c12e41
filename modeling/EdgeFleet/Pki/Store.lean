import EdgeFleet.Host
import EdgeFleet.Pki.Authority
import EdgeFleet.Tls

/-!
# Authorities in directories

An authority is kept in a directory that only its owner may use, with the key and the certificate in
files of their own. `Authority.openIn` makes what is missing: a key that can be read is never
replaced, and a certificate that does not carry the key is made anew. Credentials for servers are
written to directories in the same way.
-/

namespace EdgeFleet.Pki

open Crypto Files

/-- The file of a secret key. -/
def keyFile : String := "key.pem"

/-- The file of a certificate. -/
def certificateFile : String := "cert.pem"

/-- The file of the authority's certificate beside the credentials of others. -/
def authorityFile : String := "ca.pem"

/-- The mode of directories for their owner alone. -/
def directoryMode : Nat := 0o700

/-- The bytes that a key is made from: more than it has, so that all keys are as likely. -/
def keyEntropy : Nat := 48

/-- The bytes that the number of a certificate is made from. -/
def serialEntropy : Nat := 16

section

variable {m : Type → Type} [Monad m] (host : Host m) (suite : Suite)

/-- An access to files, as a step in the work of an authority. -/
def access {α : Type} (action : m (Except Files.Fault α)) : ExceptT Fault m α :=
  ExceptT.mk do return (← action).mapError .file

/-- Makes a directory that only its owner may use. -/
def privateDirectory (path : Path) : ExceptT Fault m Unit := do
  access (host.createDirectory path)
  access (host.setMode path directoryMode)

/-- Writes a text to a file that only its owner may use. -/
def store (path : Path) (text : String) : ExceptT Fault m Unit :=
  access (host.writePrivate path (.ofText text))

/-- The text in a file, if the file is there. -/
def load? (path : Path) : ExceptT Fault m (Option String) :=
  ExceptT.mk do
    match ← host.readText path with
    | .ok text => return .ok (some text)
    | .error .notFound => return .ok none
    | .error fault => return .error (.file fault)

/-- A new key. -/
def newKey : ExceptT Fault m PrivateKey := do
  return .generate suite (← host.random keyEntropy)

/-- A new number for a certificate. -/
def newSerial : ExceptT Fault m Nat := do
  return serialNumber (← host.random serialEntropy)

/-- The key in a file, or a new one that is written there. -/
def openKey (path : Path) : ExceptT Fault m PrivateKey := do
  match (← load? host path).bind (PrivateKey.ofText? suite) with
  | some key => return key
  | none =>
    let key ← newKey host suite
    store host path key.text
    return key

/-- The certificate in a file if it carries a key, or a new one that is written there. -/
def openCertificate (path : Path) (key : PrivateKey) : ExceptT Fault m String := do
  let found ← load? host path
  match found.filter fun text => carries suite text key with
  | some text => return text
  | none =>
    if found.isSome then access (host.remove path)
    let serial ← newSerial host
    let text := rootCertificate suite key serial (← host.now)
    store host path text
    return text

namespace Authority

/-- The authority in a directory, where what is missing is made. -/
def openIn (directory : Path) : ExceptT Fault m Authority := do
  privateDirectory host directory
  let key ← openKey host suite (directory.child keyFile)
  let certificate ← openCertificate host suite (directory.child certificateFile) key
  ExceptT.mk (pure (ofTexts suite certificate key.text))

/-- Answers a request with a certificate that begins now. -/
def enroll (authority : Authority) (request : Bytes) : ExceptT Fault m String := do
  let serial ← newSerial host
  ExceptT.mk (pure (authority.answer suite serial (← host.now) request))

end Authority

end

/-- What a client shows of itself and expects of others. -/
structure ClientCredentials where
  certificate : String
  key : PrivateKey
  authority : String
  deriving DecidableEq

/-- What a server shows of itself and expects of others. -/
structure ServerCredentials where
  certificate : String
  key : PrivateKey
  authority : String
  deriving DecidableEq

/-- How a client with credentials encrypts connections, before it knows whom it connects to. -/
def ClientCredentials.tls (credentials : ClientCredentials) : Tls.Config where
  credentials := ⟨some ⟨credentials.certificate, credentials.key.text⟩, [credentials.authority]⟩
  serverName := none

/-- A library that reads what authorities read: certificates, and keys that they carry. -/
def tlsLibrary (suite : Suite) : Tls.Library where
  accepts credentials :=
    credentials.authorities.all (fun text => (Certificate.ofText .certificate text).isOk) &&
      credentials.identity.all fun identity =>
        ((PrivateKey.ofText? suite identity.key).map (carries suite identity.certificate)).getD
          false

/-- What is shown of credentials in messages: nothing that is in them. -/
def ClientCredentials.shown (_ : ClientCredentials) : String :=
  "ClientMtlsConfig \x7b .. \x7d"

/-- What is shown of an authority in messages: when it expires. -/
def Authority.shown (authority : Authority) : String :=
  "CertificateAuthority \x7b not_after: " ++ toString authority.expiry ++ ", .. \x7d"

section

variable {m : Type → Type} [Monad m] (host : Host m) (suite : Suite)

/-- New credentials for a client. -/
def ClientCredentials.issue (authority : Authority) : ExceptT Fault m ClientCredentials := do
  let enrollment := Enrollment.ofKey suite (← newKey host suite)
  let certificate ← authority.enroll host suite enrollment.request
  return ⟨certificate, enrollment.key, authority.certificate⟩

namespace ServerCredentials

/-- New credentials for the server with a name. -/
def issue (authority : Authority) (name : String) : ExceptT Fault m ServerCredentials := do
  let key ← newKey host suite
  let serial ← newSerial host
  let certificate ← ExceptT.mk
    (return authority.serverCertificate suite serial (← host.now) key name)
  return ⟨certificate, key, authority.certificate⟩

/-- Writes credentials to a directory. -/
def writeTo (credentials : ServerCredentials) (directory : Path) : ExceptT Fault m Unit := do
  privateDirectory host directory
  store host (directory.child certificateFile) credentials.certificate
  store host (directory.child keyFile) credentials.key.text
  store host (directory.child authorityFile) credentials.authority

end ServerCredentials

end

/-- An authority that is opened when it is first asked for. -/
structure SharedAuthority where
  directory : Path
  opened : Option Authority
  deriving DecidableEq

namespace SharedAuthority

variable {m : Type → Type} [Monad m] (host : Host m) (suite : Suite)

/-- An authority in a directory that nobody has asked for. -/
def ofDirectory (directory : Path) : SharedAuthority := ⟨directory, none⟩

/-- The authority, opened unless it is open. A failure is not kept. -/
def obtain (shared : SharedAuthority) : m (Except Fault Authority × SharedAuthority) := do
  match shared.opened with
  | some authority => return (.ok authority, shared)
  | none =>
    match ← (Authority.openIn host suite shared.directory).run with
    | .ok authority => return (.ok authority, { shared with opened := some authority })
    | .error fault => return (.error fault, shared)

/-- The authority if it is open. -/
def current (shared : SharedAuthority) : Except Fault Authority :=
  match shared.opened with
  | some authority => .ok authority
  | none => .error .notInitialized

end SharedAuthority

end EdgeFleet.Pki
