import EdgeFleet.Proofs.Pki.Certificate
import EdgeFleet.Proofs.Pki.Compact
import EdgeFleet.Proofs.Pki.Healing

/-!
# Directories that have gone bad

Whatever texts are in the files of an authority, it is opened, and the directory is left as it should
be; but a file that is no text is in its way (`opening_recovers`). All that is made on the way can be
used, as keys and certificates can be read back from what they are written as (`drawn_key_reads`,
`root_carries`).
-/

namespace EdgeFleet.Pki

open Der Crypto Files Machine

/-! ### What is made can be used -/

section Made

variable {suite : Suite} {key : PrivateKey}

/-- A key that was drawn can be read from its text. -/
theorem drawn_key_reads (hsuite : IsCompact suite) (entropy : Nat → Bytes) (draw : Nat) :
    PrivateKey.ofText? suite (drawnKey suite entropy draw).text =
      some (drawnKey suite entropy draw) :=
  PrivateKey.of_text_text (PrivateKey.read_generate
    (fun number => hsuite.publicKey (.elliptic .p256 number) trivial) _)

/-- Whether a clock shows a time at which the certificate of an authority can begin, and for whose
end there is a date. -/
def ClockInRange (now : Int) : Prop :=
  Validity.InRange (now - clockSkew) ∧ Validity.InRange (now + rootLifetime)

/-- The statement of an authority can be written. -/
theorem root_written {now : Int} (hclock : ClockInRange now) (serial : Nat) :
    (rootStatement suite key serial now).IsWritten where
  issuer := PlainName.single_written _ _
  notBefore := hclock.1
  notAfter := hclock.2
  subject := PlainName.single_written _ _

/-- The number of a certificate takes few bytes. -/
theorem length_serial (entropy : Bytes) :
    (integer (serialNumber entropy)).length ≤ Statement.partLimit := by
  have hlt : serialNumber entropy < Nat.pow 2 127 := Nat.mod_lt _ (by decide)
  have hbytes : serialNumber entropy < Bytes.limit 16 := Nat.lt_trans hlt (by decide)
  have hlog := log2_lt_of_bytes (by decide) hbytes
  have hlength := length_integer (serialNumber entropy)
  have hlimit : 1000 < Statement.partLimit := by decide
  omega

/-- So does the digest that tells a key. -/
theorem length_key_identifier {digest : Bytes} (h : digest.length ≤ 20) :
    (Extension.keyIdentifier digest).bytes.length ≤ 200 := by
  have hkind : Extension.keyIdentifierKind.bytes.length ≤ 100 := by decide +kernel
  have hinner := Tag.octetString.length_of [digest]
  have houter := Tag.octetString.length_of [Tag.octetString.of [digest]]
  have hidentifier := Tag.sequence.length_of
    [Extension.keyIdentifierKind.bytes, [], Tag.octetString.of [Tag.octetString.of [digest]]]
  change (Extension.keyIdentifier digest).bytes.length ≤ _ at hidentifier
  simp only [List.flatten_cons, List.flatten_nil, List.append_nil, List.length_append,
    List.length_nil] at hinner houter hidentifier
  omega

/-- And all that an authority says of its certificate. -/
theorem length_root_extensions {digest : Bytes} (h : digest.length ≤ 20) :
    (Extension.listBytes [.keyUsage [.certificateSigning, .revocationSigning],
      .keyIdentifier digest, .authority 0]).length ≤ Statement.partLimit := by
  have husage : (Extension.keyUsage [.certificateSigning, .revocationSigning]).bytes.length ≤ 100 := by
    decide +kernel
  have hauthority : (Extension.authority 0).bytes.length ≤ 100 := by decide +kernel
  have hidentifier := length_key_identifier h
  have hlist := Tag.sequence.length_of
    [(Extension.keyUsage [.certificateSigning, .revocationSigning]).bytes,
      (Extension.keyIdentifier digest).bytes, (Extension.authority 0).bytes]
  have hlimit : 1000 < Statement.partLimit := by decide
  simp only [List.flatten_cons, List.flatten_nil, List.append_nil, List.length_append] at hlist
  refine Nat.le_trans hlist ?_
  omega

/-- The certificate of a new authority is read as what it says. -/
theorem root_reads (hsuite : IsCompact suite) (hkey : IsUsable key.secret) {now : Int}
    (hclock : ClockInRange now) {serial : Nat}
    (hserial : (integer serial).length ≤ Statement.partLimit) :
    Certificate.read? ((rootStatement suite key serial now).certificate suite key) =
      some ((rootStatement suite key serial now).shown suite key) := by
  have hlimit : compactLimit ≤ Statement.partLimit := by decide
  have hname : (PlainName.single organizationKind rootOrganization).bytes.length ≤
      Statement.partLimit := by decide +kernel
  have hlength := Statement.length_certificate (root_written hclock serial) hserial hname hname
    (Nat.le_trans (hsuite.publicKey _ hkey) hlimit)
    (length_root_extensions (List.length_take_le 20 _))
    (Nat.le_trans (hsuite.signature _ _ hkey) hlimit)
  exact Statement.read_certificate (root_written hclock serial)
    (Nat.lt_of_le_of_lt hlength (by decide))

/-- It carries the key. -/
theorem root_carries (hsuite : IsCompact suite) (hkey : IsUsable key.secret) {now : Int}
    (hclock : ClockInRange now) (entropy : Bytes) :
    carries suite (rootCertificate suite key (serialNumber entropy) now) key = true := by
  unfold carries rootCertificate
  rw [Certificate.of_text_render (root_reads hsuite hkey hclock (length_serial entropy))]
  exact beq_self_eq_true _

/-- It says under which name the authority signs. -/
theorem Authority.root_name (hsuite : IsCompact suite) (hkey : IsUsable key.secret) {now : Int}
    (hclock : ClockInRange now) {serial : Nat}
    (hserial : (integer serial).length ≤ Statement.partLimit) (expiry : Int) :
    name ⟨key, rootCertificate suite key serial now, expiry⟩ =
      .ok (.single organizationKind rootOrganization) := by
  have hread := root_reads hsuite hkey hclock hserial
  refine name_of_read hread ?_ rfl
  have hsubject : PlainName.ofName? [[⟨organizationKind,
      Tag.utf8String.element (.ofText rootOrganization)⟩]] =
        some (.single organizationKind rootOrganization) := by
    decide +kernel
  exact hsubject

end Made

/-! ### Recovery -/

section Recovery

variable {suite : Suite} {directory : Path} {start machine after : Machine} {key : PrivateKey}

/-- A certificate that carries a key makes an authority with it. -/
theorem Authority.make_of_carries {text : String} (h : carries suite text key = true) :
    ∃ authority, make suite text key = .ok authority ∧ authority.certificate = text := by
  unfold carries at h
  split at h
  · rename_i certificate hread
    have hshown : Certificate.ofText .caCertificate text = .ok certificate :=
      Certificate.of_text_iff.2 (Certificate.of_text_iff.1 hread)
    exact ⟨_, make_iff.2 ⟨certificate, hshown, beq_iff_eq.1 h, rfl⟩, rfl⟩
  · cases h

/-- A key that was read from a text can be used. -/
theorem usable_of_text {text : String} (h : PrivateKey.ofText? suite text = some key) :
    IsUsable key.secret := by
  obtain ⟨block, -, hread⟩ := Option.bind_eq_some_iff.1 h
  exact usable_of_read hread

/-- A key that was opened can be read from its text. -/
theorem KeyOpened.reads (hsuite : IsCompact suite)
    (h : KeyOpened suite directory start key machine) :
    PrivateKey.ofText? suite key.text = some key := by
  rcases h.key_there with ⟨⟨text, -, hread⟩, -⟩ | ⟨-, -, rfl, -⟩
  · exact PrivateKey.of_text_again hread
  · exact drawn_key_reads hsuite start.entropy start.draws

/-- A certificate that was opened carries the key. -/
theorem CertificateOpened.carries (hsuite : IsCompact suite) (hclock : ClockInRange machine.clock)
    (hkey : IsUsable key.secret) {text : String}
    (h : CertificateOpened suite directory machine key text after) :
    Pki.carries suite text key = true := by
  rcases h.certificate_there with ⟨hfound, -⟩ | ⟨-, rfl⟩
  · exact hfound.2
  · exact root_carries hsuite hkey hclock _

/-- Whether opening an authority can do what it does in a directory: it can be prepared, and no
directory is in the place of one of its files. -/
structure CanOpen (directory : Path) (start : Machine) : Prop where
  prepare : CanPrepare directory start
  free : ∀ name ∈ [keyFile, certificateFile], ∀ mode,
    start.files.find? (directory.child name).parts ≠ some (.directory mode)

/-- Whether the files of an authority are texts, as far as they are there. -/
def Legible (directory : Path) (files : Tree) : Prop :=
  ∀ name ∈ [keyFile, certificateFile], files.HoldsText (directory.child name).parts

/-- A directory that can be opened recovers, whatever its files hold, if they hold texts. -/
theorem opening_recovers (hsuite : IsCompact suite) (hopen : CanOpen directory start)
    (hclock : ClockInRange start.clock) :
    (Legible directory start.files → ∃ authority after,
      (Authority.openIn host suite directory).run start = (.ok authority, after) ∧
        Healed suite directory start authority after) ∧
      (¬ Legible directory start.files → ∃ after,
        (Authority.openIn host suite directory).run start = (.error (.file .notText), after)) := by
  have hkeyFree := hopen.free keyFile (by simp)
  have hcertificateFree := hopen.free certificateFile (by simp)
  constructor
  · intro hlegible
    obtain ⟨keyText, hkeyText⟩ := Tree.text_at_of_holds (hlegible keyFile (by simp)) hkeyFree
    obtain ⟨certificateText, hcertificateText⟩ :=
      Tree.text_at_of_holds (hlegible certificateFile (by simp)) hcertificateFree
    obtain ⟨key, machine, text, after, hkey, hcertificate, hrun⟩ :=
      @open_in_prepared suite _ _ _ _ hopen.prepare hkeyText hcertificateText
    have hreads := hkey.reads hsuite
    have hclockNow : ClockInRange machine.clock := by
      rw [hkey.clock_eq]
      exact hclock
    obtain ⟨authority, hmake, rfl⟩ := Authority.make_of_carries
      (hcertificate.carries hsuite hclockNow (usable_of_text hreads))
    have hmade : Authority.ofTexts suite authority.certificate key.text = .ok authority :=
      Authority.of_texts_iff.2 ⟨key, hreads, hmake⟩
    exact ⟨authority, after, by rw [hrun, hmade], healed_of_opened hkey hcertificate hmade⟩
  · intro hnot
    by_cases hkey : start.files.HoldsText (directory.child keyFile).parts
    · -- The key is opened then, and perhaps made, before the certificate is looked at.
      obtain ⟨keyText, hkeyText⟩ := Tree.text_at_of_holds hkey hkeyFree
      have hcertificate :
          ¬ start.files.HoldsText (directory.child certificateFile).parts := by
        intro hcertificate
        exact hnot (List.forall_mem_cons.2 ⟨hkey, List.forall_mem_singleton.2 hcertificate⟩)
      exact open_in_certificate_fails hopen.prepare hkeyText
        (Tree.text_at_of_holds_none hcertificate)
    · exact open_in_key_fails hopen.prepare (Tree.text_at_of_holds_none hkey)

end Recovery

namespace Sample

/-- The directory with what is neither a key nor a certificate. -/
def garbled : Machine :=
  ⟨filesOf (.ofText "no key") (.ofText "no certificate"), 0, fun _ => [], 0⟩

/-- The directory with a key that is no text. -/
def illegible : Machine :=
  ⟨⟨[(["ca"], .directory directoryMode), (["ca", keyFile], .file Tree.privateMode [0xff])]⟩, 0,
    fun _ => [], 0⟩

/-- No directory is in the place of either file if the tree has none at their parts. -/
theorem free_of {files : Tree}
    (hkey : ∀ mode, files.find? ["ca", keyFile] ≠ some (.directory mode))
    (hcertificate : ∀ mode, files.find? ["ca", certificateFile] ≠ some (.directory mode)) :
    ∀ name ∈ [keyFile, certificateFile], ∀ mode,
      files.find? (directory.child name).parts ≠ some (.directory mode) := by
  refine List.forall_mem_cons.2 ⟨fun mode => ?_, List.forall_mem_singleton.2 fun mode => ?_⟩
  · rw [key_parts]
    exact hkey mode
  · rw [certificate_parts]
    exact hcertificate mode

theorem garbled_can_open : CanOpen directory garbled where
  prepare := can_prepare_there ⟨_, there _ _⟩
  free := free_of (fun _ hfind => by cases hfind) (fun _ hfind => by cases hfind)

theorem garbled_legible : Legible directory garbled.files := by
  refine List.forall_mem_cons.2 ⟨fun content hfile => ?_,
    List.forall_mem_singleton.2 fun content hfile => ?_⟩
  · rw [key_parts] at hfile
    exact ⟨_, (Option.some.inj hfile).symm⟩
  · rw [certificate_parts] at hfile
    exact ⟨_, (Option.some.inj hfile).symm⟩

theorem illegible_can_open : CanOpen directory illegible where
  prepare := by
    refine can_prepare_there ⟨directoryMode, ?_⟩
    refine Tree.resolve_iff.2 ⟨rfl, ?_, ?_, rfl⟩ <;> rw [directory_parts] <;> rfl
  free := free_of (fun _ hfind => by cases hfind) (fun _ hfind => by cases hfind)

theorem clock_in_range : ClockInRange 0 := by
  constructor <;> constructor <;> decide

end Sample

open EdgeFleet.Pki.Sample in
/-- A key and a certificate that are neither start over. -/
theorem opening_recovers_garbled : ∃ authority after,
    (Authority.openIn host .standard directory).run garbled = (.ok authority, after) ∧
      Healed .standard directory garbled authority after :=
  (opening_recovers standard_compact garbled_can_open clock_in_range).1 garbled_legible

open EdgeFleet.Pki.Sample in
/-- A key that is no text is not made anew: nothing is opened. -/
theorem illegible_key_stays : IsCompact .standard ∧ CanOpen directory illegible ∧
    ClockInRange illegible.clock ∧ ∀ authority after,
      (Authority.openIn host .standard directory).run illegible ≠ (.ok authority, after) := by
  refine ⟨standard_compact, illegible_can_open, clock_in_range, fun authority after hrun => ?_⟩
  have hnone : Bytes.text? [0xff] = none := by decide +kernel
  have htext : illegible.files.textAt (directory.child keyFile).parts = .error .notText := by
    rw [key_parts]
    show (Files.text [0xff]).map some = _
    rw [Files.text, hnone]
    rfl
  obtain ⟨last, hfails⟩ := @open_in_key_fails .standard _ _ _ illegible_can_open.prepare htext
  rw [hfails] at hrun
  cases hrun

end EdgeFleet.Pki
