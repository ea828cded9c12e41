import EdgeFleet.Proofs.Pki.Identity

/-!
# Verdicts on certificates that were given out

A certificate that an authority gives out is accepted at the time at which it is given out, under
the name that the authority has assigned, exactly if the authority itself has not expired then
(`issued_until_expiry`). Nothing keeps an authority from being opened, and from giving out
certificates, after it has expired; these are rejected as expired.
-/

namespace EdgeFleet.Pki

open Der Crypto Files Machine

/-- Whether signatures that an authority makes are taken for its own under the key in its
certificate. -/
def Authority.Vouches (suite : Suite) (authority : Authority) : Prop :=
  ∀ certificate, Certificate.ofText .caCertificate authority.certificate = .ok certificate →
    ∀ message, ∃ scheme,
      (Algorithm.ofSignature authority.key.kind).scheme? certificate.publicKey.algorithm =
        some scheme ∧
      suite.isSignature scheme certificate.publicKey.bits message
        (suite.sign authority.key.secret message) = true

/-- The verdict on a name that an authority has certified, at a point in time. -/
def Authority.standing (authority : Authority) (now : Int) (name : String) : Verdict :=
  if authority.expiry < now then .rejected .expired else .accepted name

/-- The verdict on the certificate in a text under an authority, at a point in time. -/
def Authority.verdict (suite : Suite) (authority : Authority) (now : Int) (text : String) :
    Except Fault Verdict := do
  verify suite now (← Pem.read text) authority.certificate

/-! ### Names -/

theorem length_md5 (message : Bytes) : (Digest.Md5.digest message).length = 16 := by
  have hword (word : UInt32) :
      (Digest.ByteOrder.leastSignificantFirst.write 4 word.toNat).length = 4 := by
    rw [Digest.ByteOrder.write, List.length_reverse, Bytes.length_of_nat]
  unfold Digest.Md5.digest
  simp only [List.flatMap_cons, List.flatMap_nil, List.length_append, hword, List.length_nil]

/-- The name of a holder is not empty. -/
theorem PublicKey.holder_nonempty (bytes : Bytes) : (holder bytes).isEmpty = false := by
  have hlength := (Base64.length_encode .url (Digest.Md5.digest bytes)).1
  rw [length_md5] at hlength
  cases hempty : (holder bytes).isEmpty with
  | false => rfl
  | true =>
      have hnil : (Base64.url.encodeChars (Digest.Md5.digest bytes)) = [] := by
        rw [String.isEmpty_iff] at hempty
        have hchars := congrArg String.toList hempty
        rwa [holder, Base64.encode, String.toList_ofList] at hchars
      rw [hnil] at hlength
      exact absurd hlength (by decide)

/-! ### Verdicts -/

section

variable {suite : Suite} {authority : Authority} {now : Int} {name : String}

/-- A certificate that begins now and ends with the authority that gives it out is accepted under
its name, unless the authority has expired. -/
theorem Authority.verdict_issue {certificate : String}
    (hmake : make suite certificate authority.key = .ok authority)
    (hvouches : authority.Vouches suite) {statement : Statement} (h : statement.IsWritten)
    (hlength : (authority.issue suite statement).length < lengthLimit)
    (hstart : statement.notBefore = now) (hend : statement.notAfter = authority.expiry)
    (hsubject : statement.subject = .single commonNameKind name) (hname : name.isEmpty = false) :
    authority.verdict suite now (authority.issue suite statement) =
      .ok (authority.standing now name) := by
  obtain ⟨content, htext, hread⟩ := read_issue h hlength
  obtain ⟨shown, hshown, -, hauthority⟩ := make_iff.1 hmake
  have hcertificate : authority.certificate = certificate := by rw [hauthority]
  rw [← hcertificate] at hshown
  obtain ⟨scheme, hscheme, hsignature⟩ := hvouches shown hshown (statement.bytes authority.key.kind)
  have halgorithm : (statement.shown suite authority.key).algorithm =
      .ofSignature authority.key.kind :=
    rfl
  have hsigned : (statement.shown suite authority.key).isSignedBy suite shown.publicKey = true := by
    rw [Certificate.isSignedBy, halgorithm, hscheme]
    exact hsignature
  have hverdict : (statement.shown suite authority.key).verdict suite now shown.publicKey =
      authority.standing now name := by
    have hnot : ¬ now < statement.notBefore := by omega
    rw [Certificate.verdict, hsigned, Statement.common_name_shown hsubject]
    show (if now < statement.notBefore then _ else if statement.notAfter < now then _ else _) = _
    rw [if_neg hnot, hend, standing]
    dsimp only
    rw [hname]
    rfl
  rw [verdict, htext]
  show verify suite now content authority.certificate = _
  rw [verify, hread]
  show (Certificate.ofText .caCertificate authority.certificate).bind _ = _
  rw [hshown, ← hverdict]
  rfl

/-- The verdict on the answer to a request, at the time at which it is given. -/
theorem Answered.verdict {certificate : String}
    (hmake : Authority.make suite certificate authority.key = .ok authority)
    (hvouches : authority.Vouches suite) (answered : Answered suite authority) :
    authority.verdict suite answered.now answered.text =
      .ok (authority.standing answered.now
        (PublicKey.holder answered.request.publicKey.bytes)) := by
  obtain ⟨read, kind, asked, issuer, hread, -, -, -, hissuer, htext⟩ :=
    Authority.answer_iff.1 answered.answers
  obtain rfl := Option.some.inj (hread.symm.trans answered.reads)
  have hshort := answered.short
  rw [htext] at hshort ⊢
  exact Authority.verdict_issue hmake hvouches (Authority.node_written
    (Authority.expiry_in_range hmake) answered.in_range hissuer kind _ asked _) hshort rfl rfl rfl
    (PublicKey.holder_nonempty _)

/-- Whenever an authority can be opened in a directory, and its signatures are taken for its own,
then what it gives out is judged by one rule at the time at which it is given out, be it an answer to
a request or a certificate for a server with a name: it is accepted under the name that the
authority has assigned, unless the authority has expired. -/
theorem issued_until_expiry {directory : Path} {start after : Machine}
    (hopen : (Authority.openIn host suite directory).run start = (.ok authority, after))
    (hvouches : authority.Vouches suite) :
    (∀ answered : Answered suite authority,
      authority.verdict suite answered.now answered.text =
        .ok (authority.standing answered.now
          (PublicKey.holder answered.request.publicKey.bytes))) ∧
    ∀ serial now key name text, Validity.InRange now → name.isEmpty = false →
      authority.serverCertificate suite serial now key name = .ok text →
      text.length < lengthLimit →
        authority.verdict suite now text = .ok (authority.standing now name) := by
  obtain ⟨_, _, -, -, hmade⟩ := of_open_in hopen
  obtain ⟨secret, -, hmake⟩ := Authority.of_texts_iff.1 hmade
  obtain rfl : secret = authority.key := by
    obtain ⟨_, -, -, hauthority⟩ := Authority.make_iff.1 hmake
    rw [hauthority]
  refine ⟨Answered.verdict hmake hvouches, ?_⟩
  intro serial now key name text hnow hname hgiven hshort
  obtain ⟨issuer, hissuer, rfl⟩ := Authority.of_server_certificate hgiven
  exact Authority.verdict_issue hmake hvouches (Authority.server_written suite
    (Authority.expiry_in_range hmake) hnow hissuer key name serial) hshort rfl rfl rfl hname

end

/-! ### Suites with other signatures -/

section

variable {suite other : Suite}

/-- How a key is read from a text depends on the public halves only. -/
theorem PrivateKey.of_text_congr (h : suite.publicKey = other.publicKey) :
    ofText? suite = ofText? other := by
  have hsecret : secret? suite = secret? other := by
    unfold secret?
    rw [h]
  unfold ofText? read?
  rw [hsecret]

/-- So does whether an authority is in order. -/
theorem InOrder.of_public_keys {directory : Path} {authority : Authority} {files : Tree}
    (horder : InOrder suite directory authority files) (h : suite.publicKey = other.publicKey) :
    InOrder other directory authority files := by
  have htexts := PrivateKey.of_text_congr h
  have hmake : Authority.make suite = Authority.make other := by
    unfold Authority.make
    rw [h]
  exact { horder with
    key_read := htexts ▸ horder.key_read
    key_again := htexts ▸ horder.key_again
    makes := hmake ▸ horder.makes }

end

namespace Sample

/-- The suite that programs use, to which the signatures of the key are added as they are made. -/
def vouching : Suite :=
  { Suite.standard with
    isSignature := fun scheme bits message signature =>
      (bits == Suite.standard.publicKey key.secret &&
        signature == Suite.standard.sign key.secret message) ||
      Suite.standard.isSignature scheme bits message signature }

/-- A request that is taken to be signed still is. -/
theorem signed_vouching {request : Request} (h : request.isSigned .standard = true) :
    request.isSigned vouching = true := by
  unfold Request.isSigned at h ⊢
  split at h
  · exact Bool.or_eq_true_iff.2 (.inr h)
  · cases h

theorem vouching_own (scheme : Scheme) (message : Bytes) :
    vouching.isSignature scheme (Suite.standard.publicKey key.secret) message
      (Suite.standard.sign key.secret message) = true := by
  unfold vouching
  dsimp only
  rw [beq_self_eq_true, beq_self_eq_true, Bool.and_self, Bool.true_or]

/-- The signatures of the authority are taken for its own. -/
theorem authority_vouches : authority.Vouches vouching := by
  intro certificate hread message
  obtain ⟨_, hfound, hbits, -⟩ := Authority.make_iff.1 in_order.makes
  obtain rfl := Except.ok.inj (hread.symm.trans hfound)
  have hserial : (integer 1).length ≤ Statement.partLimit := by decide +kernel
  have hshown := Certificate.of_text_render (root_reads standard_compact
    (show IsUsable key.secret from trivial) clock_in_range hserial) .caCertificate
  have halgorithm : certificate.publicKey.algorithm = .ofKey (.elliptic .p256) := by
    rw [Except.ok.inj (hread.symm.trans hshown)]
    rfl
  have hsign : vouching.sign = Suite.standard.sign := rfl
  have hkey : authority.key = key := rfl
  refine ⟨.ecdsa .p256 .sha256, ?_, ?_⟩
  · rw [halgorithm]
    show (Algorithm.ofSignature (.elliptic .p256)).scheme? (.ofKey (.elliptic .p256)) = _
    decide +kernel
  · rw [hsign, hbits, hkey, vouching_own]

theorem vouching_compact : IsCompact vouching :=
  ⟨standard_compact.publicKey, standard_compact.signature⟩

/-- The authority is in order also with this suite. -/
theorem in_order_vouching : InOrder vouching directory authority files :=
  in_order.of_public_keys (rfl : Suite.standard.publicKey = vouching.publicKey)

/-- The directory of the authority at a point in time. -/
def machineAt (now : Int) : Machine := ⟨files, now, fun _ => [], 0⟩

/-- The authority is opened in it, whatever the time is. -/
theorem opens_at (now : Int) : ∃ after,
    (Authority.openIn host vouching directory).run (machineAt now) = (.ok authority, after) := by
  have horder : InOrder vouching directory authority (machineAt now).files := in_order_vouching
  obtain ⟨files, -, hrun⟩ := open_in_order horder
  exact ⟨_, hrun⟩

/-- A request of the node is answered then. -/
theorem answered_at {now : Int} (hnow : Validity.InRange now) :
    ∃ answered : Answered vouching authority, answered.bytes = asking .p256 [] [] ∧
      answered.now = now ∧ answered.request.publicKey = nodeKey := by
  obtain ⟨answered, hbytes, htime, hkey, -⟩ :=
    answered vouching_compact (fun _ => signed_vouching) hnow asking_plain
  exact ⟨answered, hbytes, htime, hkey⟩

/-- A server gets a certificate. -/
theorem served {suite : Suite} (hsuite : IsCompact suite) : ∃ text,
    authority.serverCertificate suite 1 0 key "edge" = .ok text ∧ text.length < lengthLimit := by
  have hserial : (integer 1).length ≤ Statement.partLimit := by decide +kernel
  have hissuer : (PlainName.single organizationKind rootOrganization).bytes.length ≤
      Statement.partLimit := by
    decide +kernel
  have hsubject : (PlainName.single commonNameKind "edge").bytes.length ≤ Statement.partLimit := by
    decide +kernel
  have hextensions : (Extension.listBytes [.altNames [.dns "edge"],
      .keyUsage [.digitalSignature], .purposes [serverPurpose]]).length ≤ Statement.partLimit := by
    decide +kernel
  have hnames : Authority.serverNames "edge" = [AltName.dns "edge"] := by decide +kernel
  have husable : IsUsable key.secret := trivial
  have hlimit : compactLimit ≤ Statement.partLimit := by decide
  have hnow : Validity.InRange 0 := by constructor <;> decide
  have hexpiry : Validity.InRange authority.expiry := by constructor <;> decide
  refine ⟨_, by rw [Authority.serverCertificate, authority_name]; rfl, ?_⟩
  refine Authority.length_issue_lt (Authority.server_written _ hexpiry hnow authority_name _ _ _)
    hserial hissuer hsubject ?_ ?_ ?_
  · exact Nat.le_trans (hsuite.publicKey _ husable) hlimit
  · rw [Authority.serverStatement, hnames]
    exact hextensions
  · exact Nat.le_trans (hsuite.signature _ _ husable) hlimit

end Sample

open EdgeFleet.Pki.Sample in
/-- The answer to a request of a node, and a certificate for a server, are accepted as long as the
authority has not expired. -/
theorem issued_accepted : ∃ answered : Answered vouching authority, ∃ text,
    answered.bytes = asking .p256 [] [] ∧
    authority.serverCertificate vouching 1 0 key "edge" = .ok text ∧
    authority.verdict vouching answered.now answered.text =
      .ok (.accepted (PublicKey.holder nodeKey.bytes)) ∧
    authority.verdict vouching 0 text = .ok (.accepted "edge") := by
  have hnow : Validity.InRange 0 := by constructor <;> decide
  have hstanding (name : String) : authority.standing 0 name = .accepted name := rfl
  obtain ⟨after, hrun⟩ := opens_at 0
  obtain ⟨answered, hbytes, htime, hkey⟩ := answered_at hnow
  obtain ⟨text, hgiven, hshort⟩ := served vouching_compact
  obtain ⟨hanswer, hserver⟩ := issued_until_expiry hrun authority_vouches
  refine ⟨answered, text, hbytes, hgiven, ?_, ?_⟩
  · rw [hanswer answered, htime, hkey, hstanding]
  · rw [hserver 1 0 key "edge" text hnow (by decide) hgiven hshort, hstanding]

open EdgeFleet.Pki.Sample in
/-- An authority that has expired is still opened and still answers. The answer is rejected when it
is given. -/
theorem answered_expired : ∃ after,
    (Authority.openIn host vouching directory).run (machineAt (rootLifetime + 1)) =
      (.ok authority, after) ∧
    authority.Vouches vouching ∧ ∃ answered : Answered vouching authority,
      answered.bytes = asking .p256 [] [] ∧ answered.now = rootLifetime + 1 ∧
      authority.verdict vouching answered.now answered.text = .ok (.rejected .expired) := by
  have hnow : Validity.InRange (rootLifetime + 1) := by constructor <;> decide
  have hstanding (name : String) :
      authority.standing (rootLifetime + 1) name = .rejected .expired :=
    rfl
  obtain ⟨after, hrun⟩ := opens_at (rootLifetime + 1)
  obtain ⟨answered, hbytes, htime, -⟩ := answered_at hnow
  refine ⟨after, hrun, authority_vouches, answered, hbytes, htime, ?_⟩
  rw [answered.verdict in_order_vouching.makes authority_vouches, htime, hstanding]

end EdgeFleet.Pki
