import EdgeFleet.Proofs.Bytes
import EdgeFleet.Proofs.Pki.Pem
import EdgeFleet.Proofs.Pki.Store

/-!
# Authorities that are in order

An authority whose key and certificate can be read and belong together is opened as it is, and only
who may use its directory is set anew (`open_in_order`). Credentials can be written to a directory
that is ready for their files (`write_to_ready`).
-/

namespace EdgeFleet.Pki

open Crypto Files Machine

/-! ### Texts of keys and certificates -/

/-- The block of a certificate can be read back from its text. -/
theorem parse_certificate (content : Bytes) :
    Pem.parse? (Pem.render ⟨certificateLabel, content⟩) = some ⟨certificateLabel, content⟩ :=
  Pem.parse_render _ (by decide : certificateLabel ≠ "") (by decide : '-' ∉ certificateLabel.toList)

/-- The block of a key can be read back from its text. -/
theorem PrivateKey.parse_text (key : PrivateKey) :
    Pem.parse? key.text = some ⟨"PRIVATE KEY", key.document⟩ :=
  Pem.parse_render _ (by decide : "PRIVATE KEY" ≠ "") (by decide : '-' ∉ "PRIVATE KEY".toList)

section Texts

variable {suite : Suite} {key other : PrivateKey} {content : Bytes} {certificate : Certificate}

/-- A key that can be read from its document can be read from its text. -/
theorem PrivateKey.of_text_text (h : PrivateKey.read? suite key.document = some key) :
    PrivateKey.ofText? suite key.text = some key := by
  rw [ofText?, parse_text]
  exact h

/-- Files of keys are the same only if the documents are. -/
theorem PrivateKey.document_of_text (h : Bytes.ofText key.text = .ofText other.text) :
    key.document = other.document := by
  have htext : key.text = other.text := by
    have hread := congrArg Bytes.text? h
    rwa [Bytes.text_of_text, Bytes.text_of_text, Option.some.injEq] at hread
  have hblock := congrArg Pem.parse? htext
  rw [parse_text, parse_text, Option.some.injEq] at hblock
  exact congrArg Pem.content hblock

/-- A certificate is read from the first block of a text, whatever it is read as. -/
theorem Certificate.of_text_iff {subject : Subject} {text : String} :
    Certificate.ofText subject text = .ok certificate ↔
      ∃ content, Pem.read text = .ok content ∧ Certificate.read? content = some certificate := by
  unfold ofText
  cases hcontent : Pem.read text with
  | error fault => simp [bind, Except.bind]
  | ok content =>
      cases hread : Certificate.read? content <;>
        simp [bind, Except.bind, pure, Except.pure, throw, throwThe, MonadExceptOf.throw, hread]

/-- A certificate that can be read can be read from its text. -/
theorem Certificate.of_text_render (h : Certificate.read? content = some certificate)
    (subject : Subject) :
    Certificate.ofText subject (Pem.render ⟨certificateLabel, content⟩) = .ok certificate :=
  of_text_iff.2 ⟨content, by rw [Pem.read, parse_certificate], h⟩

/-- A key and a certificate make an authority if the certificate can be read and carries the key. -/
theorem Authority.make_iff {text : String} {authority : Authority} :
    make suite text key = .ok authority ↔ ∃ certificate,
      Certificate.ofText .caCertificate text = .ok certificate ∧
        certificate.publicKey.bits = suite.publicKey key.secret ∧
          authority = ⟨key, text, certificate.notAfter⟩ := by
  unfold make
  cases Certificate.ofText .caCertificate text with
  | error fault => simp
  | ok certificate =>
      by_cases hbits : certificate.publicKey.bits = suite.publicKey key.secret <;>
        simp [hbits, eq_comm]

/-- A certificate that makes an authority with a key carries it. -/
theorem Authority.carries_of_make {text : String} {authority : Authority}
    (h : make suite text key = .ok authority) : carries suite text key = true := by
  obtain ⟨certificate, htext, hbits, -⟩ := make_iff.1 h
  rw [carries, Certificate.of_text_iff.2 (Certificate.of_text_iff.1 htext)]
  exact beq_iff_eq.2 hbits

/-- A library that reads what authorities read can make use of the credentials of a client if the
certificate of the authority can be read, and the key of the client belongs to its certificate. -/
theorem tls_accepts {credentials : ClientCredentials}
    (hauthority : Certificate.ofText .certificate credentials.authority = .ok certificate)
    (hkey : PrivateKey.ofText? suite credentials.key.text = some credentials.key)
    (hcarries : carries suite credentials.certificate credentials.key = true) :
    (tlsLibrary suite).accepts credentials.tls.credentials = true := by
  simp [tlsLibrary, ClientCredentials.tls, hauthority, hkey, hcarries, Except.isOk, Except.toBool]

/-- An authority is named by the subject of its certificate. -/
theorem Authority.name_of_read {expiry : Int} {issuer : PlainName}
    (h : Certificate.read? content = some certificate)
    (hissuer : PlainName.ofName? certificate.subject = some issuer)
    (husage : certificate.hasClearUsage = true) :
    name ⟨key, Pem.render ⟨certificateLabel, content⟩, expiry⟩ = .ok issuer := by
  rw [name, Certificate.of_text_render h]
  simp only [hissuer, husage, if_true]

end Texts

/-! ### Opening -/

/-- Whether an authority that is in a directory can be opened as it is. -/
structure InOrder (suite : Suite) (directory : Path) (authority : Authority) (files : Tree) :
    Prop where
  there : ∃ mode, files.resolve directory = .ok (.directory mode)
  key_read : ∃ content text, files.read (directory.child keyFile) = .ok content ∧
    Files.text content = .ok text ∧ PrivateKey.ofText? suite text = some authority.key
  certificate_read : ∃ content, files.read (directory.child certificateFile) = .ok content ∧
    Files.text content = .ok authority.certificate
  key_again : PrivateKey.ofText? suite authority.key.text = some authority.key
  makes : Authority.make suite authority.certificate authority.key = .ok authority

section Runs

variable {suite : Suite} {directory path : Path} {authority : Authority}
  {machine : Machine} {text : String} {content : Bytes} {mode : Nat}

/-- A directory that is there is kept for its owner alone. -/
theorem private_directory_runs (h : machine.files.resolve directory = .ok (.directory mode)) :
    ∃ files, machine.files.setMode directory directoryMode = .ok files ∧
      (privateDirectory host directory).run machine = (.ok (), { machine with files }) := by
  have hset : machine.files.setMode directory directoryMode =
      .ok (machine.files.put directory.parts (.directory directoryMode)) :=
    Tree.set_mode_iff.2 ⟨_, h, rfl⟩
  have hcreated : host.createDirectory directory machine = (.ok (), machine) :=
    change_runs (·.createDirectory directory) (Tree.create_directory_there h)
  have hkept : host.setMode directory directoryMode machine =
      (.ok (), { machine with files := _ }) :=
    change_runs (·.setMode directory directoryMode) hset
  exact ⟨_, hset, (run_steps (run_map_error _ hcreated)).trans (run_map_error _ hkept)⟩

/-- A text that is in a file is loaded. -/
theorem load_runs (hread : machine.files.read path = .ok content)
    (htext : Files.text content = .ok text) :
    (load? host path).run machine = (.ok (some text), machine) := by
  have hresult : host.readText path machine = (.ok text, machine) := by
    show ((machine.files.read path).bind Files.text, machine) = _
    rw [hread]
    exact congrArg (·, machine) htext
  have hnext (next : Except Files.Fault String → StateM Machine (Except Fault (Option String))) :
      (host.readText path >>= next) machine = next (.ok text) machine := by
    show next (host.readText path machine).1 (host.readText path machine).2 = _
    rw [hresult]
  exact hnext _

/-- An authority that is in order is opened as it is. Nothing is changed but who may use its
directory. -/
theorem open_in_order (h : InOrder suite directory authority machine.files) :
    ∃ files, machine.files.setMode directory directoryMode = .ok files ∧
      (Authority.openIn host suite directory).run machine =
        (.ok authority, { machine with files }) := by
  obtain ⟨mode, hthere⟩ := h.there
  obtain ⟨keyContent, text, hkey, htext, hparse⟩ := h.key_read
  obtain ⟨content, hcertificate, hcontent⟩ := h.certificate_read
  obtain ⟨files, hset, hdirectory⟩ := private_directory_runs hthere
  refine ⟨files, hset, ?_⟩
  have hkeyRun : (openKey host suite (directory.child keyFile)).run { machine with files } =
      (.ok authority.key, { machine with files }) := by
    rw [openKey, run_steps (load_runs (Tree.read_set_mode hset hkey) htext), Option.bind_some,
      hparse]
    rfl
  have hcertificateRun :
      (openCertificate host suite (directory.child certificateFile) authority.key).run
        { machine with files } = (.ok authority.certificate, { machine with files }) := by
    rw [openCertificate, run_steps (load_runs (Tree.read_set_mode hset hcertificate) hcontent),
      Option.filter_some, Authority.carries_of_make h.makes]
    rfl
  rw [Authority.openIn, run_steps hdirectory, run_steps hkeyRun, run_steps hcertificateRun,
    Authority.ofTexts, h.key_again]
  show (Authority.make suite authority.certificate authority.key, _) = _
  rw [h.makes]

/-- A text can be written to a file of a directory that is ready for it. -/
theorem store_runs {names : List String} {name : String}
    (h : machine.files.Ready directory names) (hname : name ∈ names) (hpart : Path.IsName name)
    (text : String) :
    ∃ after, after.files.Ready directory names ∧
      (store host (directory.child name) text).run machine = (.ok (), after) := by
  obtain ⟨files, hwrite, hready⟩ := h.write hname hpart (.ofText text)
  have hwritten : host.writePrivate (directory.child name) (.ofText text) machine =
      (.ok (), { machine with files }) :=
    change_runs (·.writePrivate (directory.child name) (.ofText text)) hwrite
  exact ⟨{ machine with files }, hready, run_map_error _ hwritten⟩

/-- Credentials can be written to a directory that is ready for their files. -/
theorem write_to_ready (credentials : ServerCredentials)
    (h : machine.files.Ready directory [certificateFile, keyFile, authorityFile]) :
    ∃ after, (credentials.writeTo host directory).run machine = (.ok (), after) := by
  obtain ⟨mode, hthere⟩ := h.there
  obtain ⟨files, hset, hdirectory⟩ := private_directory_runs hthere
  have hready : { machine with files }.files.Ready directory _ := h.set_mode hset
  obtain ⟨first, hfirst, hcertificate⟩ :=
    store_runs hready (by simp) certificate_file_name credentials.certificate
  obtain ⟨second, hsecond, hkey⟩ :=
    store_runs hfirst (by simp) key_file_name credentials.key.text
  obtain ⟨after, -, hauthority⟩ :=
    store_runs hsecond (by simp) authority_file_name credentials.authority
  exact ⟨after, by rw [ServerCredentials.writeTo, run_steps hdirectory, run_steps hcertificate,
    run_steps hkey, hauthority]⟩

/-- An authority whose name is clear gives credentials to any server. -/
theorem issue_runs (suite : Suite) {issuer : PlainName} (h : authority.name = .ok issuer)
    (name : String) (machine : Machine) :
    ∃ credentials after, after.files = machine.files ∧
      (ServerCredentials.issue host suite authority name).run machine =
        (.ok credentials, after) := by
  let key := PrivateKey.generate suite ((machine.entropy machine.draws).take keyEntropy)
  let serial := serialNumber ((machine.entropy (machine.draws + 1)).take serialEntropy)
  obtain ⟨certificate, hissued⟩ : ∃ certificate,
      authority.serverCertificate suite serial machine.clock key name = .ok certificate :=
    ⟨_, by rw [Authority.serverCertificate, h]; rfl⟩
  have hkey : (newKey host suite).run machine =
      (.ok key, { machine with draws := machine.draws + 1 }) := rfl
  have hserial : (newSerial host).run { machine with draws := machine.draws + 1 } =
      (.ok serial, { machine with draws := machine.draws + 2 }) := rfl
  have hgiven : (ExceptT.mk do
      return authority.serverCertificate suite serial (← host.now) key name :
        ExceptT Fault (StateM Machine) String).run { machine with draws := machine.draws + 2 } =
        (.ok certificate, { machine with draws := machine.draws + 2 }) := by
    rw [← hissued]
    rfl
  exact ⟨⟨certificate, key, authority.certificate⟩, { machine with draws := machine.draws + 2 },
    rfl, (run_steps hkey).trans ((run_steps hserial).trans (run_steps hgiven))⟩

end Runs

namespace Sample

/-- The key of an authority. -/
def key : PrivateKey := .generate .standard (List.replicate keyEntropy 1)

/-- The certificate of the authority, as a document. -/
def document : Bytes := (rootStatement .standard key 1 0).certificate .standard key

/-- The authority. -/
def authority : Authority := ⟨key, rootCertificate .standard key 1 0, rootLifetime⟩

/-- The directory of the authority. -/
def directory : Path := ⟨"ca"⟩

/-- A directory with two files. -/
def filesOf (key certificate : Bytes) : Tree :=
  ⟨[(["ca"], .directory directoryMode), (["ca", keyFile], .file Tree.privateMode key),
    (["ca", certificateFile], .file Tree.privateMode certificate)]⟩

/-- The files of the authority. -/
def files : Tree := filesOf (.ofText key.text) (.ofText authority.certificate)

theorem directory_parts : directory.parts = ["ca"] := by decide +kernel

theorem key_parts : (directory.child keyFile).parts = ["ca", keyFile] := by
  rw [Path.parts_child directory key_file_name, directory_parts]
  rfl

theorem certificate_parts : (directory.child certificateFile).parts = ["ca", certificateFile] := by
  rw [Path.parts_child directory certificate_file_name, directory_parts]
  rfl

theorem key_reads : PrivateKey.read? .standard key.document = some key := by decide +kernel

/-- The certificate can be read, carries the key and bears a name to sign under. -/
theorem certificate_reads : ∃ certificate issuer, Certificate.read? document = some certificate ∧
    certificate.publicKey.bits = Suite.standard.publicKey key.secret ∧
    certificate.notAfter = authority.expiry ∧
    PlainName.ofName? certificate.subject = some issuer ∧ certificate.hasClearUsage = true := by
  -- All is read off one evaluation, since the signature in the document takes long to make.
  have hread : (Certificate.read? document).any (fun certificate =>
      certificate.publicKey.bits == Suite.standard.publicKey key.secret &&
        certificate.notAfter == authority.expiry &&
        (PlainName.ofName? certificate.subject).isSome && certificate.hasClearUsage) = true := by
    decide +kernel
  obtain ⟨certificate, hfound, hfacts⟩ := (Option.any_eq_true _ _).1 hread
  simp only [Bool.and_eq_true, beq_iff_eq, Option.isSome_iff_exists] at hfacts
  obtain ⟨⟨⟨hbits, hexpiry⟩, issuer, hissuer⟩, husage⟩ := hfacts
  exact ⟨certificate, issuer, hfound, hbits, hexpiry, hissuer, husage⟩

theorem there (key certificate : Bytes) :
    (filesOf key certificate).resolve directory = .ok (.directory directoryMode) := by
  refine Tree.resolve_iff.2 ⟨rfl, ?_, ?_, rfl⟩ <;> rw [directory_parts] <;> rfl

theorem key_there : files.read (directory.child keyFile) = .ok (.ofText key.text) := by
  refine Tree.read_of_content ?_ (Path.check_child key_file_name rfl)
    (Path.child_open directory key_file_name)
  rw [key_parts]
  rfl

/-- The authority is in order. -/
theorem in_order : InOrder .standard directory authority files where
  there := ⟨_, there _ _⟩
  key_read := ⟨_, _, key_there, text_of_text _, PrivateKey.of_text_text key_reads⟩
  certificate_read := by
    refine ⟨_, Tree.read_of_content ?_ (Path.check_child certificate_file_name rfl)
      (Path.child_open directory certificate_file_name), text_of_text _⟩
    rw [certificate_parts]
    rfl
  key_again := PrivateKey.of_text_text key_reads
  makes := by
    obtain ⟨certificate, issuer, hread, hbits, hexpiry, -, -⟩ := certificate_reads
    exact Authority.make_iff.2 ⟨certificate, Certificate.of_text_render hread _, hbits,
      by rw [hexpiry]⟩

/-- The name of the authority is clear. -/
theorem name_clear : ∃ issuer, authority.name = .ok issuer := by
  obtain ⟨certificate, issuer, hread, -, -, hissuer, husage⟩ := certificate_reads
  exact ⟨issuer, Authority.name_of_read hread hissuer husage⟩

/-- The directory of the authority is ready for the files of credentials. -/
theorem ready : files.Ready directory [certificateFile, keyFile, authorityFile] := by
  refine ⟨⟨_, there _ _⟩, ?_⟩
  rw [directory_parts]
  simp [files, filesOf, Tree.find?, certificateFile, keyFile, authorityFile, List.lookup_cons,
    Path.isAbove, Path.top, Path.back]

end Sample

end EdgeFleet.Pki
