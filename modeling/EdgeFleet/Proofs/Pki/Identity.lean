import EdgeFleet.Proofs.Pki.Issuing
import EdgeFleet.Proofs.Pki.Recovery

/-!
# Whom an authority takes a node for

A request cannot choose under which name and for what use its key is certified. Whatever two
requests with the same key ask for, the certificates that answer them are of one name that follows
from the key, and differ at most in their number, their beginning and the signature, and in the
family that the key is written as (`identity_from_key`). The family is taken from the way in which
the request is signed.
-/

namespace EdgeFleet.Pki

open Der Crypto

/-! ### Keys in requests -/

/-- A public key is told by its bytes. -/
theorem PublicKey.eq_of_bytes {first second : PublicKey} {input other rest left : Bytes}
    (hfirst : reader input = some (first, rest)) (hsecond : reader other = some (second, left))
    (h : first.bytes = second.bytes) : first = second := by
  have hlocal : Reader.Local (do return (← Algorithm.reader, ← Reader.bitString)) :=
    (Reader.within_local _ _).bind fun _ => Reader.bit_string_local.bind fun _ => .pure _
  obtain ⟨⟨⟨algorithm, bits⟩, bytes⟩, _, hread, hresult⟩ := Reader.of_bind_run hfirst
  cases hresult
  obtain ⟨⟨⟨otherAlgorithm, otherBits⟩, otherBytes⟩, _, hother, hresult⟩ :=
    Reader.of_bind_run hsecond
  cases hresult
  dsimp only at h
  subst h
  cases Reader.sequence_with_bytes_inj hlocal hread hother
  rfl

/-- The public key of a request was read. -/
theorem Request.key_reads {bytes : Bytes} {request : Request} (h : read? bytes = some request) :
    ∃ input rest, PublicKey.reader input = some (request.publicKey, rest) := by
  obtain ⟨_, hread⟩ := Reader.of_inside h
  obtain ⟨_, _, -, hinner⟩ := Reader.of_within hread
  obtain ⟨⟨⟨subject, publicKey, extensions⟩, signed⟩, _, hsigned, hbehind⟩ :=
    Reader.of_bind_run hinner
  obtain ⟨algorithm, _, -, hbehind⟩ := Reader.of_bind_run hbehind
  obtain ⟨signature, _, -, hbehind⟩ := Reader.of_bind_run hbehind
  cases hbehind
  obtain ⟨_, _, -, hparts, -⟩ := Reader.of_sequence_with_bytes hsigned
  obtain ⟨version, _, -, hparts⟩ := Reader.of_bind_run hparts
  obtain ⟨⟨⟩, _, -, hparts⟩ := Reader.of_bind_run hparts
  obtain ⟨_, _, -, hparts⟩ := Reader.of_bind_run hparts
  obtain ⟨key, _, hkey, hparts⟩ := Reader.of_bind_run hparts
  obtain ⟨_, _, -, hparts⟩ := Reader.of_bind_run hparts
  cases hparts
  exact ⟨_, _, hkey⟩

/-- Families are written in different ways. -/
theorem Algorithm.of_key_inj {kind other : KeyKind} : ofKey kind = ofKey other ↔ kind = other := by
  constructor
  · have hall : ∀ kind ∈ PrivateKey.kinds, ∀ other ∈ PrivateKey.kinds,
        ofKey kind = ofKey other → kind = other := by
      decide +kernel
    have hkinds (kind : KeyKind) : kind ∈ PrivateKey.kinds := by
      cases kind with
      | rsa => decide
      | elliptic curve => cases curve <;> decide
      | edwards => decide
    exact hall kind (hkinds kind) other (hkinds other)
  · exact congrArg ofKey

/-! ### Nodes -/

/-- Whether a certificate says of a public key what an authority says of nodes: it is that of the
holder whom the key names and of nobody else, to sign and to be sent keys, for talking to others and
being talked to, until the authority expires. -/
structure Certificate.IsOfNode (authority : Authority) (publicKey : PublicKey)
    (certificate : Certificate) : Prop where
  subject : certificate.subject =
    [[⟨commonNameKind, Tag.utf8String.element (.ofText (PublicKey.holder publicKey.bytes))⟩]]
  common_name : certificate.commonName? = some (PublicKey.holder publicKey.bytes)
  kinds : certificate.extensions.map (·.kind) = [Extension.keyUsageKind, Extension.purposesKind]
  alt_names : certificate.altNames = []
  constraints : certificate.constraints? = none
  key_usage : certificate.keyUsage? = some [.digitalSignature, .keyEncipherment]
  purposes : certificate.purposes? = some [clientPurpose, serverPurpose]
  not_after : certificate.notAfter = authority.expiry
  bits : certificate.publicKey.bits = publicKey.bits

/-- Whether certificates differ in nothing but their number, their beginning, the signature, and
how the key is written. -/
def Certificate.SameClaims (first second : Certificate) : Prop :=
  { first with
    signed := second.signed
    serial := second.serial
    notBefore := second.notBefore
    publicKey := second.publicKey
    signature := second.signature } = second

section

variable {suite : Suite} {authority : Authority}

/-- Whatever a node asks for, its profile says what its key may be used for and nothing else. -/
theorem Profile.extensions_for_node (asked : Profile) (holder : String) (keyBits : Bytes) :
    (asked.forNode holder).extensions keyBits =
      [.keyUsage [.digitalSignature, .keyEncipherment],
        .purposes [clientPurpose, serverPurpose]] :=
  rfl

/-- The certificate for the statement of a node says of its key what an authority says of nodes. -/
theorem Authority.shown_of_node (issuer : PlainName) (kind : KeyKind) (publicKey : PublicKey)
    (asked : Profile) (serial : Nat) (now : Int) (key : PrivateKey) :
    ((authority.nodeStatement issuer kind publicKey asked serial now).shown suite key).IsOfNode
      authority publicKey := by
  let extensions : List Extension :=
    [.keyUsage [.digitalSignature, .keyEncipherment], .purposes [clientPurpose, serverPurpose]]
  have hextensions :
      ((authority.nodeStatement issuer kind publicKey asked serial now).shown suite
        key).extensions = extensions :=
    Profile.extensions_for_node asked (PublicKey.holder publicKey.bytes) publicKey.bits
  have hnames : extensions.filter (fun extension => extension.kind = Extension.altNamesKind) = [] :=
    by decide +kernel
  have hconstraints :
      extensions.filter (fun extension => extension.kind = Extension.constraintsKind) = [] := by
    decide +kernel
  have husage :
      extensions.filter (fun extension => extension.kind = Extension.keyUsageKind) =
        [.keyUsage [.digitalSignature, .keyEncipherment]] := by
    decide +kernel
  have hpurposes :
      extensions.filter (fun extension => extension.kind = Extension.purposesKind) =
        [.purposes [clientPurpose, serverPurpose]] := by
    decide +kernel
  constructor
  · rfl
  · exact Statement.common_name_shown rfl
  · rw [hextensions]
    rfl
  · rw [Certificate.altNames, Certificate.extension?, hextensions, hnames]
    rfl
  · rw [Certificate.constraints?, Certificate.extension?, hextensions, hconstraints]
    rfl
  · rw [Certificate.keyUsage?, Certificate.extension?, hextensions, husage]
    decide +kernel
  · rw [Certificate.purposes?, Certificate.extension?, hextensions, hpurposes]
    decide +kernel
  · rfl
  · rfl

/-- Whatever two requests with the same key ask for, both are answered with certificates that say
the same of the key, and this is what the authority says of nodes. The certificates agree in how
the key is written if and only if the requests are signed in ways that stand for the same family of
keys. -/
theorem identity_from_key {certificate key : String}
    (hauthority : Authority.ofTexts suite certificate key = .ok authority)
    (first second : Answered suite authority)
    (hkey : first.request.publicKey.bytes = second.request.publicKey.bytes) :
    ∃ given other, Certificate.ofText .certificate first.text = .ok given ∧
      Certificate.ofText .certificate second.text = .ok other ∧
      given.IsOfNode authority first.request.publicKey ∧
      other.IsOfNode authority first.request.publicKey ∧ given.SameClaims other ∧
      (given.publicKey = other.publicKey ↔
        first.request.algorithm.kind? = second.request.algorithm.kind?) := by
  obtain ⟨secret, -, hmake⟩ := Authority.of_texts_iff.1 hauthority
  have hexpiry := Authority.expiry_in_range hmake
  obtain ⟨issuer, hissuer⟩ := first.name
  obtain ⟨kind, asked, hkind, hgiven⟩ := first.shown hexpiry hissuer
  obtain ⟨otherKind, otherAsked, hotherKind, hother⟩ := second.shown hexpiry hissuer
  have hsame : first.request.publicKey = second.request.publicKey := by
    obtain ⟨_, _, hread⟩ := Request.key_reads first.reads
    obtain ⟨_, _, hreadOther⟩ := Request.key_reads second.reads
    exact PublicKey.eq_of_bytes hread hreadOther hkey
  rw [← hsame] at hother
  refine ⟨_, _, hgiven, hother, Authority.shown_of_node .., Authority.shown_of_node .., rfl, ?_⟩
  rw [hkind, hotherKind, Option.some_inj, ← Algorithm.of_key_inj]
  constructor
  · exact congrArg PublicKey.algorithm
  · intro halgorithm
    obtain rfl := Algorithm.of_key_inj.1 halgorithm
    rfl

end

namespace Sample

/-- The key of a node: the public half of the secret number 1. -/
def nodeKey : PublicKey :=
  let bits := Curve.p256.publicKey 1
  ⟨.ofKey (.elliptic .p256), bits, PublicKey.write (.elliptic .p256) bits⟩

/-- A request of the node that asks for a name and for extensions. It is signed over the digest
that goes with a curve. -/
def asking (named : Curve) (subject : PlainName) (extensions : List Extension) : Bytes :=
  let remark := Tag.sequence.of
    [Request.extensionsKind.bytes, Tag.set.of [Extension.listBytes extensions]]
  let signed := Tag.sequence.of [
    integer 0, subject.bytes, nodeKey.bytes,
    (Tag.place 0).of (if extensions.isEmpty then [] else [remark])]
  let signature := Ecdsa.sign .p256 1 (named.hash.digest signed)
  Tag.sequence.of
    [signed, Algorithm.signatureBytes (.elliptic named), bitString (Suite.ecdsaSignature signature)]

/-- Whether a request is one of the node that can be answered, signed over the digest that goes with
a curve. -/
def isOfNode (named : Curve) (request : Request) : Bool :=
  request.isSigned .standard && request.algorithm.kind? == some (.elliptic named) &&
    request.profile?.isSome && request.publicKey == nodeKey

theorem asking_plain : (Request.read? (asking .p256 [] [])).any (isOfNode .p256) = true := by
  decide +kernel

/-- What is asked for does not matter, as long as it could be said. -/
theorem asking_privileged :
    (Request.read? (asking .p256 (.single commonNameKind "root")
      [.altNames [.dns "controller"], .keyUsage [.certificateSigning], .authority 0])).any
        (isOfNode .p256) = true := by
  decide +kernel

theorem asking_wide : (Request.read? (asking .p384 [] [])).any (isOfNode .p384) = true := by
  decide +kernel

/-- The name of the authority is that of its organization. -/
theorem authority_name : authority.name = .ok (.single organizationKind rootOrganization) :=
  Authority.root_name standard_compact (by exact trivial) clock_in_range (by decide +kernel)
    rootLifetime

/-- The authority is one whose certificate and key are texts. -/
theorem authority_made :
    Authority.ofTexts .standard authority.certificate key.text = .ok authority :=
  Authority.of_texts_iff.2 ⟨key, in_order.key_again, in_order.makes⟩

/-- A request of the node is answered, with all suites that take it to be signed. -/
theorem answered {suite : Suite} (hsuite : IsCompact suite)
    (htaken : ∀ request : Request, request.isSigned .standard = true →
      request.isSigned suite = true)
    {now : Int} (hnow : Validity.InRange now) {named : Curve} {bytes : Bytes}
    (h : (Request.read? bytes).any (isOfNode named) = true) :
    ∃ answered : Answered suite authority, answered.bytes = bytes ∧ answered.now = now ∧
      answered.request.publicKey = nodeKey ∧
      answered.request.algorithm.kind? = some (.elliptic named) := by
  obtain ⟨request, hread, hnode⟩ := (Option.any_eq_true _ _).1 h
  simp only [isOfNode, Bool.and_eq_true, beq_iff_eq] at hnode
  obtain ⟨⟨⟨hsigned, hkind⟩, hasked⟩, hkey⟩ := hnode
  obtain ⟨asked, hasked⟩ := Option.isSome_iff_exists.1 hasked
  have hexpiry : Validity.InRange authority.expiry := by constructor <;> decide
  have hlimit : compactLimit ≤ Statement.partLimit := by decide
  have hshort : (authority.issue suite (authority.nodeStatement
      (.single organizationKind rootOrganization) (.elliptic named) request.publicKey asked 1
        now)).length <
        lengthLimit := by
    have hserial : (integer 1).length ≤ Statement.partLimit := by decide +kernel
    have hissuer : (PlainName.single organizationKind rootOrganization).bytes.length ≤
        Statement.partLimit := by
      decide +kernel
    have hsubject : (PlainName.single commonNameKind (PublicKey.holder nodeKey.bytes)).bytes.length ≤
        Statement.partLimit := by
      decide +kernel
    have hbits : nodeKey.bits.length ≤ Statement.partLimit := by decide +kernel
    have hextensions : (Extension.listBytes [.keyUsage [.digitalSignature, .keyEncipherment],
        .purposes [clientPurpose, serverPurpose]]).length ≤ Statement.partLimit := by
      decide +kernel
    rw [hkey]
    exact Authority.length_issue_lt (Authority.node_written hexpiry hnow authority_name _ _ _ _)
      hserial hissuer hsubject hbits hextensions
      (Nat.le_trans (hsuite.signature _ _ (by exact trivial)) hlimit)
  exact ⟨⟨bytes, request, 1, now, _, hread, hnow, Authority.answer_iff.2 ⟨request, _, asked, _,
    hread, htaken request hsigned, hkind, hasked, authority_name, rfl⟩, hshort⟩, rfl, rfl, hkey,
      hkind⟩

/-- So it is with the suite of programs, at the beginning of time. -/
theorem answered_standard {named : Curve} {bytes : Bytes}
    (h : (Request.read? bytes).any (isOfNode named) = true) :
    ∃ answered : Answered .standard authority, answered.request.publicKey = nodeKey ∧
      answered.request.algorithm.kind? = some (.elliptic named) := by
  have hnow : Validity.InRange 0 := by constructor <;> decide
  obtain ⟨answered, -, -, hkey, hkind⟩ := answered standard_compact (fun _ => id) hnow h
  exact ⟨answered, hkey, hkind⟩

end Sample

open EdgeFleet.Pki.Sample in
/-- A node that asks for another name, for more uses of its key and to be an authority is certified
as it is without asking. -/
theorem identity_despite_request :
    ∃ first second : Answered .standard authority, ∃ given other,
      Certificate.ofText .certificate first.text = .ok given ∧
      Certificate.ofText .certificate second.text = .ok other ∧
      given.IsOfNode authority nodeKey ∧ other.IsOfNode authority nodeKey ∧
      given.SameClaims other ∧ given.publicKey = other.publicKey := by
  obtain ⟨first, hfirst, hkind⟩ := answered_standard asking_plain
  obtain ⟨second, hsecond, hotherKind⟩ := answered_standard asking_privileged
  obtain ⟨given, other, hgiven, hother, hnode, hotherNode, hsame, hwritten⟩ :=
    identity_from_key authority_made first second (by rw [hfirst, hsecond])
  rw [hfirst] at hnode hotherNode
  exact ⟨first, second, given, other, hgiven, hother, hnode, hotherNode, hsame,
    hwritten.2 (hkind.trans hotherKind.symm)⟩

open EdgeFleet.Pki.Sample in
/-- The way in which a request is signed bears on how the key is written. Signed over another digest,
a request with the same key is answered with another key in the certificate, which the name does
not follow from. -/
theorem key_written_from_signature :
    Authority.ofTexts .standard authority.certificate key.text = .ok authority ∧
    ∃ first second : Answered .standard authority, ∃ given other,
      first.request.publicKey = second.request.publicKey ∧
      Certificate.ofText .certificate first.text = .ok given ∧
      Certificate.ofText .certificate second.text = .ok other ∧
      given.publicKey ≠ other.publicKey ∧
      other.commonName? ≠ some (PublicKey.holder other.publicKey.bytes) := by
  refine ⟨authority_made, ?_⟩
  obtain ⟨first, hfirst, hkind⟩ := answered_standard asking_plain
  obtain ⟨second, hsecond, hotherKind⟩ := answered_standard asking_wide
  have hexpiry : Validity.InRange authority.expiry := by constructor <;> decide
  obtain ⟨kind, asked, hgivenKind, hgiven⟩ := first.shown hexpiry authority_name
  obtain ⟨otherKind, otherAsked, hshownKind, hother⟩ := second.shown hexpiry authority_name
  obtain rfl := Option.some.inj (hgivenKind.symm.trans hkind)
  obtain rfl := Option.some.inj (hshownKind.symm.trans hotherKind)
  refine ⟨first, second, _, _, hfirst.trans hsecond.symm, hgiven, hother, ?_, ?_⟩
  · intro hsame
    have hfamily : Algorithm.ofKey (.elliptic .p256) = Algorithm.ofKey (.elliptic .p384) :=
      congrArg PublicKey.algorithm hsame
    exact absurd (Algorithm.of_key_inj.1 hfamily) (by decide)
  · have hdigest : PublicKey.holder nodeKey.bytes ≠
        PublicKey.holder (PublicKey.write (.elliptic .p384) nodeKey.bits) := by
      decide +kernel
    rw [Statement.common_name_shown rfl, hsecond]
    exact fun heq => hdigest (Option.some.inj heq)

end EdgeFleet.Pki
