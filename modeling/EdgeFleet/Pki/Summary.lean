import EdgeFleet.Json.Basic
import EdgeFleet.Pki.Authority
import EdgeFleet.Text.Base64

/-!
# Summaries of certificates

A summary says what a certificate states in a form that can be read and compared: names instead of
bits, and of keys, numbers and times only whether they are as they should be.
-/

namespace EdgeFleet.Pki

/-- A verdict as an object. A certificate that is rejected names nobody. -/
def Verdict.toJson (verdict : Verdict) : Json :=
  match verdict with
  | .accepted name =>
    .object [("valid", .bool true), ("common_name", .string name), ("reason", .null)]
  | .rejected reason =>
    .object [("valid", .bool false), ("common_name", ""), ("reason", .string reason.message)]

/-- The readable form of a further name, for the two kinds that servers are known by. -/
def AltName.toJson (name : AltName) : Json :=
  match name with
  | .dns host => .string ("DNS:" ++ host)
  | .address bytes => .string ("IP:" ++ Base64.standard.encode bytes)
  | _ => .null

/-- How far from now a certificate may begin and count as beginning now. -/
def startTolerance : Nat := 3600

namespace Certificate

/-- The purposes of a certificate, as an object with one truth value each. -/
def purposesJson (purposes : List Der.Oid) : Json :=
  .object [("server_auth", .bool (purposes.contains serverPurpose)),
    ("client_auth", .bool (purposes.contains clientPurpose))]

/-- The members of the summary of a certificate at a time. -/
def summary (certificate : Certificate) (now : Int) : List (String × Json) :=
  let constraints := certificate.constraints?
  let usage := certificate.keyUsage?.map fun uses => ", ".intercalate (uses.map (·.name))
  let kinds := (certificate.extensions.map (·.kind.name)).mergeSort fun a b => a ≤ b
  [ ("subject", .string certificate.subject.render),
    ("issuer", .string certificate.issuer.render),
    ("is_ca", .bool (constraints.any (·.1))),
    ("path_len", .ofOption (fun count => .int count) (constraints.bind (·.2))),
    ("key_usage", .ofOption .string usage),
    ("extended_key_usage", .ofOption purposesJson certificate.purposes?),
    ("sans", .ofList AltName.toJson certificate.altNames),
    ("extensions", .strings kinds),
    ("serial_ok", .bool
      (certificate.serial.length ≤ 16 && certificate.serial.headD 0 < 128)),
    ("starts_now", .bool ((certificate.notBefore - now).natAbs ≤ startTolerance)),
    ("key_cn", .string (PublicKey.holder certificate.publicKey.bytes)) ]

end Certificate

end EdgeFleet.Pki
