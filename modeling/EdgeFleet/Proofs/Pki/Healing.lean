import EdgeFleet.Proofs.Pki.Stages

/-!
# What opening an authority leaves behind

An authority that was opened has left its directory as it should be (`Healed`): what could be used
is as it was, what could not is new, and it is opened again without anything being written
(`opening_heals`).
-/

namespace EdgeFleet.Pki

open Crypto Files Machine

section Opened

variable {suite : Suite} {directory : Path} {start machine after : Machine} {key : PrivateKey}
  {authority : Authority}

/-- What an authority that was opened has left behind. -/
structure Healed (suite : Suite) (directory : Path) (start : Machine) (authority : Authority)
    (after : Machine) : Prop where
  /-- The directory holds a key that can be read, and this is the key of the authority. -/
  key_read : HasKey suite directory after.files authority.key
  /-- It holds the certificate of the authority, byte for byte. -/
  certificate_read : after.files.file? (directory.child certificateFile).parts =
    some (.ofText authority.certificate)
  /-- The certificate carries the key. -/
  carried : carries suite authority.certificate authority.key = true
  /-- A key that could be read before is used, and its file is as it was. -/
  key_kept : ∀ key, HasKey suite directory start.files key → authority.key = key ∧
    after.files.file? (directory.child keyFile).parts =
      start.files.file? (directory.child keyFile).parts
  /-- Else there is a new one. -/
  key_made : (∀ key, ¬ HasKey suite directory start.files key) →
    after.files.file? (directory.child keyFile).parts =
      some (.ofText (drawnKey suite start.entropy start.draws).text)
  /-- A certificate that carried the key is used, and its file is as it was. -/
  certificate_kept : ∀ key text, HasKey suite directory start.files key →
    HasCertificate suite directory start.files key text → authority.certificate = text ∧
      after.files.file? (directory.child certificateFile).parts =
        start.files.file? (directory.child certificateFile).parts
  /-- Else there is a new one for the key. -/
  certificate_replaced : ∀ key, HasKey suite directory start.files key →
    (∀ text, ¬ HasCertificate suite directory start.files key text) →
      ∃ draw ≥ start.draws, authority.certificate = rootCertificate suite key
        (serialNumber ((start.entropy draw).take serialEntropy)) start.clock
  /-- So there is for a new key, which no certificate has carried that was there before the key was
  drawn. -/
  certificate_made : (∀ key, ¬ HasKey suite directory start.files key) →
    (∀ text, ¬ HasCertificate suite directory start.files
      (drawnKey suite start.entropy start.draws) text) →
      ∃ draw ≥ start.draws, authority.certificate = rootCertificate suite
        (drawnKey suite start.entropy start.draws)
        (serialNumber ((start.entropy draw).take serialEntropy)) start.clock

/-- What is opened is left as it should be. -/
theorem healed_of_opened (hkey : KeyOpened suite directory start key machine)
    (hcertificate : CertificateOpened suite directory machine key authority.certificate after)
    (hmade : Authority.ofTexts suite authority.certificate key.text = .ok authority) :
    Healed suite directory start authority after := by
  obtain ⟨hread, horder⟩ := in_order_of_opened hkey hcertificate hmade
  have hkept := (hkey.key_read hmade).2.2
  -- What was drawn for the certificate comes after all draws before.
  have hmadeNow : authority.certificate = madeCertificate suite machine key →
      ∃ draw ≥ start.draws, authority.certificate = rootCertificate suite key
        (serialNumber ((start.entropy draw).take serialEntropy)) start.clock := by
    intro hnew
    refine ⟨machine.draws, ?_, ?_⟩
    · rcases hkey.key_there with ⟨-, hdraws, -⟩ | ⟨-, hdraws, -⟩ <;> omega
    · rw [hnew, madeCertificate, hkey.entropy_eq, hkey.clock_eq]
  have hcertificates {other : PrivateKey} {text : String} :
      HasCertificate suite directory machine.files other text ↔
        HasCertificate suite directory start.files other text :=
    has_certificate_congr hkey.certificate_eq
  refine {
    key_read := hread
    certificate_read := Tree.file_of_text_at hcertificate.text_there
    carried := Authority.carries_of_make horder.makes
    key_kept := ?_
    key_made := ?_
    certificate_kept := ?_
    certificate_replaced := ?_
    certificate_made := ?_ }
  · intro other hother
    rcases hkey.key_there with ⟨hfound, -, hfind⟩ | ⟨hnone, -⟩
    · obtain rfl := hfound.unique hother
      exact ⟨hkept hfound, (Tree.file_congr hcertificate.key_eq).trans (Tree.file_congr hfind)⟩
    · exact absurd hother (hnone other)
  · intro hnone
    rcases hkey.key_there with ⟨hfound, -⟩ | ⟨-, -, rfl, hfind⟩
    · exact absurd hfound (hnone key)
    · rw [Tree.file_congr hcertificate.key_eq, Tree.file?, hfind]
  · intro other text hother htext
    rcases hkey.key_there with ⟨hfound, -⟩ | ⟨hnone, -⟩
    · obtain rfl := hfound.unique hother
      rcases hcertificate.certificate_there with ⟨hthere, hfind⟩ | ⟨hnone, -⟩
      · refine ⟨(hcertificates.1 hthere).unique htext, ?_⟩
        exact (Tree.file_congr hfind).trans (Tree.file_congr hkey.certificate_eq)
      · exact absurd (hcertificates.2 htext) (hnone text)
    · exact absurd hother (hnone other)
  · intro other hother hnot
    rcases hkey.key_there with ⟨hfound, -⟩ | ⟨hnone, -⟩
    · obtain rfl := hfound.unique hother
      rcases hcertificate.certificate_there with ⟨hthere, -⟩ | ⟨-, hnew⟩
      · exact absurd (hcertificates.1 hthere) (hnot _)
      · exact hmadeNow hnew
    · exact absurd hother (hnone other)
  · intro hnone hnot
    rcases hkey.key_there with ⟨hfound, -⟩ | ⟨-, -, rfl, -⟩
    · exact absurd hfound (hnone key)
    · rcases hcertificate.certificate_there with ⟨hthere, -⟩ | ⟨-, hnew⟩
      · exact absurd (hcertificates.1 hthere) (hnot _)
      · exact hmadeNow hnew

/-- Whenever an authority can be opened in a directory, the directory is left as it should be: its
key can be read, its certificate is that of the authority and carries the key, and nothing that was
in order has been replaced. From then on, whatever the time is and whatever is drawn, the same
authority is opened again, and no file is written. -/
theorem opening_heals
    (h : (Authority.openIn host suite directory).run start = (.ok authority, after)) :
    Healed suite directory start authority after ∧
      ∀ later : Machine, later.files = after.files → ∃ files,
        (Authority.openIn host suite directory).run later = (.ok authority, { later with files }) ∧
          ∀ place, files.file? place = after.files.file? place := by
  obtain ⟨key, machine, hkey, hcertificate, hmade⟩ := of_open_in h
  refine ⟨healed_of_opened hkey hcertificate hmade, fun later hfiles => ?_⟩
  have horder := (in_order_of_opened hkey hcertificate hmade).2
  rw [← hfiles] at horder
  obtain ⟨files, hset, hrun⟩ := open_in_order horder
  exact ⟨files, hrun, fun place => by rw [Tree.file_set_mode hset place, hfiles]⟩

end Opened

namespace Sample

/-- The directory of the authority with its key, and something that is no certificate. -/
def broken : Machine :=
  ⟨filesOf (.ofText key.text) (.ofText "no certificate"), 0,
    fun _ => List.replicate 15 0 ++ [1], 0⟩

theorem broken_key : broken.files.textAt (directory.child keyFile).parts = .ok (some key.text) := by
  have hfile : broken.files.file? (directory.child keyFile).parts = some (.ofText key.text) := by
    rw [key_parts]
    rfl
  exact Tree.text_at_iff.2 ⟨_, hfile, text_of_text _⟩

theorem broken_certificate : broken.files.textAt (directory.child certificateFile).parts =
    .ok (some "no certificate") := by
  have hfile : broken.files.file? (directory.child certificateFile).parts =
      some (.ofText "no certificate") := by
    rw [certificate_parts]
    rfl
  exact Tree.text_at_iff.2 ⟨_, hfile, text_of_text _⟩

/-- The key can be read. -/
theorem broken_has_key : HasKey .standard directory broken.files key :=
  ⟨key.text, broken_key, PrivateKey.of_text_text key_reads⟩

/-- No certificate carries it. -/
theorem broken_no_certificate (text : String) :
    ¬ HasCertificate .standard directory broken.files key text := by
  rintro ⟨htext, hcarries⟩
  obtain rfl := Option.some.inj (Except.ok.inj (broken_certificate.symm.trans htext))
  have hnone : carries .standard "no certificate" key = false := by decide +kernel
  rw [hnone] at hcarries
  cases hcarries

/-- The authority is opened with a new certificate. -/
theorem broken_opens : ∃ after,
    (Authority.openIn host .standard directory).run broken = (.ok authority, after) := by
  have hprepare : CanPrepare directory broken := can_prepare_there ⟨_, there _ _⟩
  obtain ⟨opened, machine, text, after, hkey, hcertificate, hrun⟩ :=
    @open_in_prepared .standard _ _ _ _ hprepare broken_key broken_certificate
  obtain rfl : opened = key := by
    rcases hkey.key_there with ⟨hfound, -⟩ | ⟨hnone, -⟩
    · exact hfound.unique broken_has_key
    · exact absurd broken_has_key (hnone key)
  obtain rfl : text = authority.certificate := by
    rcases hcertificate.certificate_there with ⟨hfound, -⟩ | ⟨-, hmade⟩
    · exact absurd ((has_certificate_congr hkey.certificate_eq).1 hfound)
        (broken_no_certificate text)
    · rw [hmade, madeCertificate, hkey.entropy_eq, hkey.clock_eq]
      rfl
  refine ⟨after, hrun.trans ?_⟩
  rw [Authority.ofTexts, PrivateKey.of_text_text key_reads]
  exact congrArg (·, after) in_order.makes

end Sample

open EdgeFleet.Pki.Sample in
/-- A file that is no certificate is replaced, by one for the key that is there. -/
theorem opening_heals_certificate : ∃ after,
    (Authority.openIn host .standard directory).run broken = (.ok authority, after) ∧
      after.files.file? (directory.child keyFile).parts = some (.ofText key.text) ∧
      after.files.file? (directory.child certificateFile).parts =
        some (.ofText authority.certificate) ∧
      ∃ files, (Authority.openIn host .standard directory).run after =
        (.ok authority, { after with files }) := by
  obtain ⟨after, hrun⟩ := broken_opens
  obtain ⟨hhealed, hagain⟩ := opening_heals hrun
  obtain ⟨-, hkept⟩ := hhealed.key_kept key broken_has_key
  obtain ⟨files, hrunAgain, -⟩ := hagain after rfl
  refine ⟨after, hrun, hkept.trans ?_, hhealed.certificate_read, files, hrunAgain⟩
  exact Tree.file_of_text_at broken_key

end EdgeFleet.Pki
