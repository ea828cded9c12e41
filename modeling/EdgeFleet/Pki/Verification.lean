import EdgeFleet.Pki.Certificate

/-!
# Checking certificates

A certificate is accepted if the authority signed it, the time is within its period, and it names
its holder. The checks are made in this order, and the first that fails is the reason given.
-/

namespace EdgeFleet.Pki

open Crypto

/-- Why a certificate is not accepted. -/
inductive Rejection where
  | signature
  | notYetValid
  | expired
  | unnamed
  deriving Repr, DecidableEq

/-- The words for a rejection. -/
def Rejection.message : Rejection → String
  | .signature => "signature verification failed"
  | .notYetValid => "certificate not yet valid"
  | .expired => "certificate expired"
  | .unnamed => "certificate has no common name"

/-- What becomes of a certificate. -/
inductive Verdict where
  | accepted (commonName : String)
  | rejected (reason : Rejection)
  deriving Repr, DecidableEq

namespace Certificate

/-- The certificate in the first block of a text, which is read as one of some kind. -/
def ofText (subject : Subject) (text : String) : Except Fault Certificate := do
  match read? (← Pem.read text) with
  | some certificate => return certificate
  | none => throw (.unreadable subject)

/-- The verdict on a certificate under the key of an authority at a time. -/
def verdict (suite : Suite) (now : Int) (certificate : Certificate) (authority : PublicKey) :
    Verdict :=
  if !certificate.isSignedBy suite authority then .rejected .signature
  else if now < certificate.notBefore then .rejected .notYetValid
  else if certificate.notAfter < now then .rejected .expired
  else
    match certificate.commonName? with
    | some name => if name.isEmpty then .rejected .unnamed else .accepted name
    | none => .rejected .unnamed

/-- The name of the holder of the certificate in a text. -/
def commonNameIn (text : String) : Except Fault (Option String) :=
  return (← ofText .certificate text).commonName?

end Certificate

/-- The verdict on a certificate in bytes, under the authority whose certificate is a text. -/
def verify (suite : Suite) (now : Int) (certificate : Bytes) (authority : String) :
    Except Fault Verdict := do
  let some presented := Certificate.read? certificate | throw (.unreadable .certificate)
  let issuer ← Certificate.ofText .caCertificate authority
  return presented.verdict suite now issuer.publicKey

end EdgeFleet.Pki
