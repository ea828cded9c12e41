import EdgeFleet.Files.Fault

/-!
# Failures of the certificate authority
-/

namespace EdgeFleet.Pki

/-- What a text or a byte string was to be read as. -/
inductive Subject where
  | pem
  | certificate
  | caCertificate
  | caKey
  | nodeKey
  deriving Repr, DecidableEq

/-- Why the authority, or a request to it, failed. -/
inductive Fault where
  | notInitialized
  | unreadableRequest
  | badRequestSignature
  | unreadable (subject : Subject)
  | certificateKeyMismatch
  | noIssuer
  | unsigned
  | unsignedServer
  | file (cause : Files.Fault)
  deriving Repr, DecidableEq

/-- The words for what could not be read. -/
def Subject.name : Subject → String
  | .pem => "PEM"
  | .certificate => "certificate"
  | .caCertificate => "CA cert"
  | .caKey => "CA key"
  | .nodeKey => "node key"

namespace Fault

/-- What went wrong, without the kind of the failure. -/
def detail : Fault → String
  | .notInitialized => ""
  | .unreadableRequest => "failed to parse CSR"
  | .badRequestSignature => "bad CSR signature"
  | .unreadable subject => "failed to parse " ++ subject.name
  | .certificateKeyMismatch => "CA certificate does not match CA key"
  | .noIssuer => "failed to create issuer"
  | .unsigned => "failed to sign certificate"
  | .unsignedServer => "failed to sign server cert"
  | .file cause => cause.message

/-- The words for a failure. -/
def message (fault : Fault) : String :=
  match fault with
  | .notInitialized => "CA not initialized"
  | .unreadableRequest | .badRequestSignature => "invalid CSR: " ++ fault.detail
  | .unsigned | .unsignedServer => "certificate generation failed: " ++ fault.detail
  | .unreadable _ | .certificateKeyMismatch | .noIssuer =>
    "certificate parsing error: " ++ fault.detail
  | .file _ => "IO error: " ++ fault.detail

end Fault

end EdgeFleet.Pki
