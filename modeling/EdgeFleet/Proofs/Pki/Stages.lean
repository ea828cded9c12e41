import EdgeFleet.Proofs.Files.Directory
import EdgeFleet.Proofs.Pki.Opening

/-!
# The stages of opening an authority

What opening an authority does in a directory that is there, by the texts of its two files. A key
that can be read is used, and else one is drawn and written (`open_key_found`, `open_key_drawn`); a
certificate that carries the key is used, and else one is made and written
(`open_certificate_found`, `open_certificate_made`). `KeyOpened` and `CertificateOpened` are what
holds after either stage: an authority that was opened has gone through both (`of_open_in`), and
with two texts it gets through both (`open_in_prepared`).
-/

namespace EdgeFleet.Pki

open Crypto Files Machine

section Steps

variable {suite : Suite} {directory : Path} {name : String} {machine after : Machine}
  {key : PrivateKey} {text : String} {found : Option String}

/-- An access to the files that ended well has changed them. -/
theorem of_access (act : Tree → Except Files.Fault Tree)
    (h : (access (change act)).run machine = (.ok (), after)) :
    ∃ files, act machine.files = .ok files ∧ after = { machine with files } := by
  refine of_change ?_
  have hrun : (access (change act)).run machine =
      ((change act machine).1.mapError .file, (change act machine).2) := rfl
  rw [hrun] at h
  cases hchange : change act machine with
  | mk ended between =>
      rw [hchange] at h
      cases ended with
      | ok value => exact congrArg (Prod.mk _) (congrArg Prod.snd h)
      | error fault => cases congrArg Prod.fst h

/-- A directory that was prepared is there, and none of its files has changed. -/
theorem of_private_directory
    (h : (privateDirectory host directory).run machine = (.ok (), after)) :
    ∃ files, after = { machine with files } ∧ files.IsThere directory ∧
      ∀ name, Path.IsName name → files.find? (directory.child name).parts =
        machine.files.find? (directory.child name).parts := by
  obtain ⟨⟨⟩, between, hcreated, hkept⟩ := of_run_steps h
  obtain ⟨made, hcreate, rfl⟩ := of_access (·.createDirectory directory) hcreated
  obtain ⟨files, hset, rfl⟩ := of_access (·.setMode directory directoryMode) hkept
  exact ⟨files, rfl, Tree.is_there_of_prepared hcreate hset,
    fun name hname => Tree.find_prepared hcreate hset hname⟩

/-- What is loaded for what is read: a file that is not there counts as nothing. -/
def loaded : Except Files.Fault String → Except Fault (Option String)
  | .ok text => .ok (some text)
  | .error .notFound => .ok none
  | .error fault => .error (.file fault)

/-- Loading changes nothing. -/
theorem load_run (path : Path) (machine : Machine) :
    (load? host path).run machine =
      (loaded ((machine.files.read path).bind Files.text), machine) := by
  have hnext (next : Except Files.Fault String → StateM Machine (Except Fault (Option String))) :
      (host.readText path >>= next) machine =
        next ((machine.files.read path).bind Files.text) machine := rfl
  refine (hnext _).trans ?_
  cases (machine.files.read path).bind Files.text with
  | ok text => rfl
  | error fault => cases fault <;> rfl

/-- What is loaded from a file of a directory that is there is its text. -/
theorem load_child (h : machine.files.IsThere directory) (hname : Path.IsName name) :
    (load? host (directory.child name)).run machine =
      ((machine.files.textAt (directory.child name).parts).mapError .file, machine) := by
  rw [load_run, h.read_text_child hname]
  cases htext : machine.files.textAt (directory.child name).parts with
  | ok found => cases found <;> rfl
  | error fault =>
      -- Nothing but a file that is missing counts as nothing.
      rcases Tree.text_at_fault htext with rfl | rfl <;> rfl

/-- A text is written to a file of a directory that is there, unless a directory is in its place. -/
theorem store_child (h : machine.files.IsThere directory) (hname : Path.IsName name)
    (hfree : ∀ mode, machine.files.find? (directory.child name).parts ≠ some (.directory mode))
    (text : String) :
    (store host (directory.child name) text).run machine =
      (.ok (), { machine with
        files := machine.files.put (directory.child name).parts
          (.file Tree.privateMode (.ofText text)) }) :=
  run_map_error _ (change_runs (·.writePrivate (directory.child name) (.ofText text))
    (h.write_child hname hfree _))

/-- The machine after a file of a directory was written with what was drawn for it. -/
def written (machine : Machine) (path : Path) (text : String) : Machine :=
  { machine with
    draws := machine.draws + 1
    files := machine.files.put path.parts (.file Tree.privateMode (.ofText text)) }

/-! ### The key -/

/-- A key that can be read is used. -/
theorem open_key_found (h : machine.files.IsThere directory)
    (htext : machine.files.textAt (directory.child keyFile).parts = .ok (some text))
    (hkey : PrivateKey.ofText? suite text = some key) :
    (openKey host suite (directory.child keyFile)).run machine = (.ok key, machine) := by
  have hload := load_child h key_file_name
  rw [htext] at hload
  rw [openKey, run_steps hload, Option.bind_some, hkey]
  rfl

/-- Where no key can be read, the next draw makes one, and it is written. -/
theorem open_key_drawn (h : machine.files.IsThere directory)
    (htext : machine.files.textAt (directory.child keyFile).parts = .ok found)
    (hnone : found.bind (PrivateKey.ofText? suite) = none) :
    (openKey host suite (directory.child keyFile)).run machine =
      (.ok (drawnKey suite machine.entropy machine.draws),
        written machine (directory.child keyFile)
          (drawnKey suite machine.entropy machine.draws).text) := by
  have hload := load_child h key_file_name
  rw [htext] at hload
  let drawn : Machine := { machine with draws := machine.draws + 1 }
  have hdrawn : (newKey host suite).run machine =
      (.ok (drawnKey suite machine.entropy machine.draws), drawn) := rfl
  have hthere : drawn.files.IsThere directory := h
  have hstored := store_child hthere key_file_name (Tree.free_of_text_at htext)
    (drawnKey suite machine.entropy machine.draws).text
  rw [openKey, run_steps hload, hnone]
  exact (run_steps hdrawn).trans (run_steps hstored)

/-- Where the file of the key cannot be read as text, opening fails. -/
theorem open_key_fails {fault : Files.Fault} (h : machine.files.IsThere directory)
    (htext : machine.files.textAt (directory.child keyFile).parts = .error fault) :
    (openKey host suite (directory.child keyFile)).run machine =
      (.error (.file fault), machine) := by
  have hload := load_child h key_file_name
  rw [htext] at hload
  exact run_fails hload

/-! ### The certificate -/

/-- A certificate that carries the key is used. -/
theorem open_certificate_found (h : machine.files.IsThere directory)
    (htext : machine.files.textAt (directory.child certificateFile).parts = .ok (some text))
    (hcarries : carries suite text key = true) :
    (openCertificate host suite (directory.child certificateFile) key).run machine =
      (.ok text, machine) := by
  have hload := load_child h certificate_file_name
  rw [htext] at hload
  rw [openCertificate, run_steps hload, Option.filter_some, hcarries]
  rfl

/-- The certificate that a machine makes for a key with its next draw. -/
def madeCertificate (suite : Suite) (machine : Machine) (key : PrivateKey) : String :=
  rootCertificate suite key
    (serialNumber ((machine.entropy machine.draws).take serialEntropy)) machine.clock

/-- A certificate is made and written. -/
theorem make_certificate_runs (h : machine.files.IsThere directory) (hname : Path.IsName name)
    (hfree : ∀ mode, machine.files.find? (directory.child name).parts ≠ some (.directory mode))
    (suite : Suite) (key : PrivateKey) :
    (do
      let serial ← newSerial host
      let text := rootCertificate suite key serial (← host.now)
      store host (directory.child name) text
      return text : ExceptT Fault (StateM Machine) String).run machine =
      (.ok (madeCertificate suite machine key),
        written machine (directory.child name) (madeCertificate suite machine key)) := by
  let drawn : Machine := { machine with draws := machine.draws + 1 }
  have hserial : (newSerial host).run machine =
      (.ok (serialNumber ((machine.entropy machine.draws).take serialEntropy)), drawn) := rfl
  have hnow : (liftM host.now : ExceptT Fault (StateM Machine) Int).run drawn =
      (.ok machine.clock, drawn) := rfl
  have hthere : drawn.files.IsThere directory := h
  have hstored := store_child hthere hname hfree (madeCertificate suite machine key)
  exact (run_steps hserial).trans ((run_steps hnow).trans (run_steps hstored))

/-- Where no certificate carries the key, the next draw makes one, and it is written. -/
theorem open_certificate_made (h : machine.files.IsThere directory)
    (htext : machine.files.textAt (directory.child certificateFile).parts = .ok found)
    (hnone : found.filter (fun text => carries suite text key) = none) :
    (openCertificate host suite (directory.child certificateFile) key).run machine =
      (.ok (madeCertificate suite machine key),
        written machine (directory.child certificateFile)
          (madeCertificate suite machine key)) := by
  have hload := load_child h certificate_file_name
  rw [htext] at hload
  rw [openCertificate, run_steps hload, hnone]
  cases found with
  | none =>
      exact make_certificate_runs h certificate_file_name (Tree.free_of_text_at htext) suite key
  | some old =>
      -- The file of the old certificate is removed before the new one is written in its place.
      obtain ⟨mode, content, hfile⟩ := Tree.find_of_text_at htext
      let erased : Machine :=
        { machine with files := machine.files.erase (directory.child certificateFile).parts }
      have hremoved : (access (host.remove (directory.child certificateFile))).run machine =
          (.ok (), erased) :=
        run_map_error _ (change_runs (·.remove (directory.child certificateFile))
          (h.remove_child certificate_file_name hfile))
      have hthere : erased.files.IsThere directory := h.erase_child certificate_file_name hfile
      have hnothing : erased.files.find? (directory.child certificateFile).parts = none :=
        machine.files.find_erase_child directory certificate_file_name
      have hmade := make_certificate_runs hthere certificate_file_name
        (by simp [hnothing]) suite key
      have hsame : written erased (directory.child certificateFile)
          (madeCertificate suite erased key) =
          written machine (directory.child certificateFile)
            (madeCertificate suite machine key) := by
        unfold written
        rw [Tree.put_erase]
        rfl
      exact (run_steps hremoved).trans (hmade.trans (by rw [hsame]; rfl))

/-- Where the file of the certificate cannot be read as text, opening fails. -/
theorem open_certificate_fails {fault : Files.Fault} (h : machine.files.IsThere directory)
    (htext : machine.files.textAt (directory.child certificateFile).parts = .error fault) :
    (openCertificate host suite (directory.child certificateFile) key).run machine =
      (.error (.file fault), machine) := by
  have hload := load_child h certificate_file_name
  rw [htext] at hload
  exact run_fails hload

/-! ### What a directory holds -/

/-- Whether a directory holds a key. -/
def HasKey (suite : Suite) (directory : Path) (files : Tree) (key : PrivateKey) : Prop :=
  ∃ text, files.textAt (directory.child keyFile).parts = .ok (some text) ∧
    PrivateKey.ofText? suite text = some key

/-- Whether a directory holds a certificate for a key. -/
def HasCertificate (suite : Suite) (directory : Path) (files : Tree) (key : PrivateKey)
    (text : String) : Prop :=
  files.textAt (directory.child certificateFile).parts = .ok (some text) ∧
    carries suite text key = true

/-- A directory holds one key at most. -/
theorem HasKey.unique {files : Tree} {other : PrivateKey} (h : HasKey suite directory files key)
    (hother : HasKey suite directory files other) : key = other := by
  obtain ⟨text, htext, hkey⟩ := h
  obtain ⟨otherText, hotherText, hotherKey⟩ := hother
  rw [htext] at hotherText
  obtain rfl := Option.some.inj (Except.ok.inj hotherText)
  exact Option.some.inj (hkey.symm.trans hotherKey)

/-- And one certificate at most. -/
theorem HasCertificate.unique {files : Tree} {other : String} {otherKey : PrivateKey}
    (h : HasCertificate suite directory files key text)
    (hother : HasCertificate suite directory files otherKey other) : text = other := by
  have hsame := h.1.symm.trans hother.1
  exact Option.some.inj (Except.ok.inj hsame)

/-- A key is opened in one of two ways. -/
theorem of_open_key (h : machine.files.IsThere directory)
    (hrun : (openKey host suite (directory.child keyFile)).run machine = (.ok key, after)) :
    (HasKey suite directory machine.files key ∧ after = machine) ∨
      ((∀ key, ¬ HasKey suite directory machine.files key) ∧
        (∀ mode, machine.files.find? (directory.child keyFile).parts ≠ some (.directory mode)) ∧
        key = drawnKey suite machine.entropy machine.draws ∧
          after = written machine (directory.child keyFile) key.text) := by
  cases htext : machine.files.textAt (directory.child keyFile).parts with
  | error fault =>
      rw [open_key_fails h htext] at hrun
      cases hrun
  | ok found =>
      cases hfound : found.bind (PrivateKey.ofText? suite) with
      | none =>
          rw [open_key_drawn h htext hfound] at hrun
          obtain ⟨hkey, rfl⟩ := Prod.mk.inj hrun
          obtain rfl := Except.ok.inj hkey
          refine .inr ⟨fun key hkey => ?_, Tree.free_of_text_at htext, rfl, rfl⟩
          obtain ⟨text, hsome, hread⟩ := hkey
          obtain rfl := Except.ok.inj (htext.symm.trans hsome)
          rw [Option.bind_some, hread] at hfound
          cases hfound
      | some read =>
          obtain ⟨text, rfl, hread⟩ := Option.bind_eq_some_iff.1 hfound
          rw [open_key_found h htext hread] at hrun
          obtain ⟨hkey, rfl⟩ := Prod.mk.inj hrun
          obtain rfl := Except.ok.inj hkey
          exact .inl ⟨⟨text, htext, hread⟩, rfl⟩

/-- So is a certificate. -/
theorem of_open_certificate (h : machine.files.IsThere directory)
    (hrun : (openCertificate host suite (directory.child certificateFile) key).run machine =
      (.ok text, after)) :
    (HasCertificate suite directory machine.files key text ∧ after = machine) ∨
      ((∀ text, ¬ HasCertificate suite directory machine.files key text) ∧
        (∀ mode, machine.files.find? (directory.child certificateFile).parts ≠
          some (.directory mode)) ∧
        text = madeCertificate suite machine key ∧
          after = written machine (directory.child certificateFile) text) := by
  cases htext : machine.files.textAt (directory.child certificateFile).parts with
  | error fault =>
      rw [open_certificate_fails h htext] at hrun
      cases hrun
  | ok found =>
      cases hfound : found.filter (fun text => carries suite text key) with
      | none =>
          rw [open_certificate_made h htext hfound] at hrun
          obtain ⟨hmade, rfl⟩ := Prod.mk.inj hrun
          obtain rfl := Except.ok.inj hmade
          refine .inr ⟨fun text hcertificate => ?_, Tree.free_of_text_at htext, rfl, rfl⟩
          obtain rfl := Except.ok.inj (htext.symm.trans hcertificate.1)
          rw [Option.filter_some, if_pos hcertificate.2] at hfound
          cases hfound
      | some kept =>
          obtain ⟨rfl, hcarries⟩ := Option.filter_eq_some_iff.1 hfound
          rw [open_certificate_found h htext hcarries] at hrun
          obtain ⟨hkept, rfl⟩ := Prod.mk.inj hrun
          obtain rfl := Except.ok.inj hkept
          exact .inl ⟨⟨htext, hcarries⟩, rfl⟩

end Steps

/-! ### Between the stages -/

/-- A key keeps the document that it was read from. -/
theorem PrivateKey.document_of_read {suite : Suite} {document : Bytes} {key : PrivateKey}
    (h : PrivateKey.read? suite document = some key) : key.document = document := by
  unfold PrivateKey.read? at h
  obtain ⟨secret, -, rfl⟩ := Option.map_eq_some_iff.1 h
  rfl

/-- A key that was read from a text is read from its own text. -/
theorem PrivateKey.of_text_again {suite : Suite} {text : String} {key : PrivateKey}
    (h : PrivateKey.ofText? suite text = some key) :
    PrivateKey.ofText? suite key.text = some key := by
  obtain ⟨block, -, hread⟩ := Option.bind_eq_some_iff.1 h
  refine PrivateKey.of_text_text ?_
  rw [PrivateKey.document_of_read hread]
  exact hread

/-- What makes an authority of two texts. -/
theorem Authority.of_texts_iff {suite : Suite} {certificate text : String}
    {authority : Authority} : ofTexts suite certificate text = .ok authority ↔
      ∃ key, PrivateKey.ofText? suite text = some key ∧
        make suite certificate key = .ok authority := by
  unfold ofTexts
  cases PrivateKey.ofText? suite text with
  | none => simp
  | some key => simp

section Opened

variable {suite : Suite} {directory : Path} {start machine after : Machine} {key : PrivateKey}
  {authority : Authority}

/-- What holds between the two files, once the key is opened: the certificate is as it was, and the
key is the one that was there, or the next one that was drawn. -/
structure KeyOpened (suite : Suite) (directory : Path) (start : Machine) (key : PrivateKey)
    (machine : Machine) : Prop where
  there : machine.files.IsThere directory
  clock_eq : machine.clock = start.clock
  entropy_eq : machine.entropy = start.entropy
  certificate_eq : machine.files.find? (directory.child certificateFile).parts =
    start.files.find? (directory.child certificateFile).parts
  key_there : (HasKey suite directory start.files key ∧ machine.draws = start.draws ∧
      machine.files.find? (directory.child keyFile).parts =
        start.files.find? (directory.child keyFile).parts) ∨
    ((∀ key, ¬ HasKey suite directory start.files key) ∧ machine.draws = start.draws + 1 ∧
      key = drawnKey suite start.entropy start.draws ∧
        machine.files.find? (directory.child keyFile).parts =
          some (.file Tree.privateMode (.ofText key.text)))

/-- What a directory holds depends on its files alone. -/
theorem has_key_congr {files others : Tree} (h : files.find? (directory.child keyFile).parts =
    others.find? (directory.child keyFile).parts) :
    HasKey suite directory files key ↔ HasKey suite directory others key := by
  rw [HasKey, HasKey, Tree.text_at_congr h]

theorem has_certificate_congr {files others : Tree} {text : String}
    (h : files.find? (directory.child certificateFile).parts =
      others.find? (directory.child certificateFile).parts) :
    HasCertificate suite directory files key text ↔
      HasCertificate suite directory others key text := by
  rw [HasCertificate, HasCertificate, Tree.text_at_congr h]

/-- The files of the key and of the certificate are two. -/
theorem key_certificate_ne (directory : Path) :
    (directory.child keyFile).parts ≠ (directory.child certificateFile).parts :=
  Tree.child_places_ne directory key_file_name certificate_file_name (by decide)

/-- Preparing the directory and opening the key lead there. -/
theorem key_opened {between : Machine}
    (hprepared : (privateDirectory host directory).run start = (.ok (), between))
    (hopened : (openKey host suite (directory.child keyFile)).run between = (.ok key, machine)) :
    KeyOpened suite directory start key machine := by
  obtain ⟨files, rfl, hthere, hfind⟩ := of_private_directory hprepared
  have hkeys := hfind keyFile key_file_name
  have hcertificates := hfind certificateFile certificate_file_name
  have hstays : ({ start with files } : Machine).files.IsThere directory := hthere
  rcases of_open_key hstays hopened with ⟨hkey, rfl⟩ | ⟨hnone, hfree, rfl, rfl⟩
  · exact ⟨hthere, rfl, rfl, hcertificates, .inl ⟨(has_key_congr hkeys).1 hkey, rfl, hkeys⟩⟩
  · refine ⟨hthere.change_child key_file_name hfree _, rfl, rfl, ?_, .inr ⟨?_, rfl, rfl, ?_⟩⟩
    · exact (Tree.find_put ..).trans ((if_neg (key_certificate_ne directory).symm).trans
        hcertificates)
    · exact fun key hkey => hnone key ((has_key_congr hkeys).2 hkey)
    · exact (Tree.find_put ..).trans (if_pos rfl)

/-- A key that was opened is the key of the authority, if an authority can be made of it. -/
theorem KeyOpened.key_read {text : String} (h : KeyOpened suite directory start key machine)
    (hmade : Authority.ofTexts suite text key.text = .ok authority) :
    HasKey suite directory machine.files authority.key ∧
      PrivateKey.ofText? suite authority.key.text = some authority.key ∧
        (HasKey suite directory start.files key → authority.key = key) := by
  obtain ⟨read, hread, hmake⟩ := Authority.of_texts_iff.1 hmade
  obtain ⟨certificate, -, -, rfl⟩ := Authority.make_iff.1 hmake
  refine ⟨?_, PrivateKey.of_text_again hread, ?_⟩
  · rcases h.key_there with ⟨hkey, -, hfind⟩ | ⟨-, -, -, hfind⟩
    · obtain ⟨found, htext, hfound⟩ := (has_key_congr hfind).2 hkey
      rw [PrivateKey.of_text_again hfound] at hread
      obtain rfl := Option.some.inj hread
      exact ⟨found, htext, hfound⟩
    · have htext : machine.files.textAt (directory.child keyFile).parts = .ok (some key.text) := by
        rw [Tree.textAt, hfind]
        exact congrArg (Except.map some) (text_of_text key.text)
      exact ⟨key.text, htext, hread⟩
  · rintro ⟨found, -, hfound⟩
    rw [PrivateKey.of_text_again hfound] at hread
    exact (Option.some.inj hread).symm

/-- What holds once the certificate is opened, too: the file of the key is as it was, and the
certificate is the one that was there, or one that was made with the next draw. -/
structure CertificateOpened (suite : Suite) (directory : Path) (machine : Machine)
    (key : PrivateKey) (text : String) (after : Machine) : Prop where
  there : after.files.IsThere directory
  key_eq : after.files.find? (directory.child keyFile).parts =
    machine.files.find? (directory.child keyFile).parts
  text_there : after.files.textAt (directory.child certificateFile).parts = .ok (some text)
  certificate_there : (HasCertificate suite directory machine.files key text ∧
      after.files.find? (directory.child certificateFile).parts =
        machine.files.find? (directory.child certificateFile).parts) ∨
    ((∀ text, ¬ HasCertificate suite directory machine.files key text) ∧
      text = madeCertificate suite machine key)

/-- Opening the certificate leads there. -/
theorem certificate_opened {text : String} (hthere : machine.files.IsThere directory)
    (h : (openCertificate host suite (directory.child certificateFile) key).run machine =
      (.ok text, after)) : CertificateOpened suite directory machine key text after := by
  rcases of_open_certificate hthere h with ⟨hfound, rfl⟩ | ⟨hnone, hfree, rfl, rfl⟩
  · exact ⟨hthere, rfl, hfound.1, .inl ⟨hfound, rfl⟩⟩
  · refine ⟨hthere.change_child certificate_file_name hfree _, ?_, Tree.text_at_put .., .inr ?_⟩
    · exact (Tree.find_put ..).trans (if_neg (key_certificate_ne directory))
    · exact ⟨hnone, rfl⟩

/-- An authority that was opened is in order. -/
theorem in_order_of_opened {text : String} (hkey : KeyOpened suite directory start key machine)
    (hcertificate : CertificateOpened suite directory machine key text after)
    (hmade : Authority.ofTexts suite text key.text = .ok authority) :
    HasKey suite directory after.files authority.key ∧
      InOrder suite directory authority after.files := by
  obtain ⟨hread, hagain, -⟩ := hkey.key_read hmade
  obtain ⟨read, hparsed, hmake⟩ := Authority.of_texts_iff.1 hmade
  obtain ⟨shown, hshown, hbits, rfl⟩ := Authority.make_iff.1 hmake
  have hkeyThere := (has_key_congr hcertificate.key_eq).2 hread
  obtain ⟨found, hfound, hparse⟩ := hkeyThere
  obtain ⟨content, hfile, hcontent⟩ := Tree.text_at_iff.1 hfound
  have hwritten := Tree.file_of_text_at hcertificate.text_there
  refine ⟨⟨found, hfound, hparse⟩, ?_⟩
  exact {
    there := hcertificate.there
    key_read := ⟨content, found, hcertificate.there.read_child key_file_name hfile, hcontent, hparse⟩
    certificate_read :=
      ⟨_, hcertificate.there.read_child certificate_file_name hwritten, text_of_text text⟩
    key_again := hagain
    makes := hmake }

/-- Opening an authority goes through its key and its certificate, from which it is made. -/
theorem of_open_in (h : (Authority.openIn host suite directory).run start = (.ok authority, after)) :
    ∃ key machine, KeyOpened suite directory start key machine ∧
      CertificateOpened suite directory machine key authority.certificate after ∧
        Authority.ofTexts suite authority.certificate key.text = .ok authority := by
  obtain ⟨⟨⟩, between, hprepared, h⟩ := of_run_steps h
  obtain ⟨key, machine, hkeyRun, h⟩ := of_run_steps h
  obtain ⟨certificate, last, hcertificateRun, h⟩ := of_run_steps h
  obtain ⟨hmade, rfl⟩ : Authority.ofTexts suite certificate key.text = .ok authority ∧
      last = after := Prod.mk.inj h
  have hkey := key_opened hprepared hkeyRun
  have hcertificate := certificate_opened hkey.there hcertificateRun
  have hsame : authority.certificate = certificate := by
    obtain ⟨read, -, hmake⟩ := Authority.of_texts_iff.1 hmade
    obtain ⟨shown, -, -, rfl⟩ := Authority.make_iff.1 hmake
    rfl
  subst hsame
  exact ⟨key, machine, hkey, hcertificate, hmade⟩

end Opened

/-! ### Getting through -/

section Runs

variable {suite : Suite} {directory : Path} {start machine : Machine}

/-- A key is opened if its file is missing or a text. -/
theorem open_key_runs {found : Option String} (h : machine.files.IsThere directory)
    (htext : machine.files.textAt (directory.child keyFile).parts = .ok found) :
    ∃ key after, (openKey host suite (directory.child keyFile)).run machine = (.ok key, after) := by
  cases hfound : found.bind (PrivateKey.ofText? suite) with
  | none => exact ⟨_, _, open_key_drawn h htext hfound⟩
  | some key =>
      obtain ⟨text, rfl, hread⟩ := Option.bind_eq_some_iff.1 hfound
      exact ⟨_, _, open_key_found h htext hread⟩

/-- So is a certificate. -/
theorem open_certificate_runs {found : Option String} (h : machine.files.IsThere directory)
    (htext : machine.files.textAt (directory.child certificateFile).parts = .ok found)
    (key : PrivateKey) :
    ∃ text after, (openCertificate host suite (directory.child certificateFile) key).run machine =
      (.ok text, after) := by
  cases hfound : found.filter (fun text => carries suite text key) with
  | none => exact ⟨_, _, open_certificate_made h htext hfound⟩
  | some kept =>
      obtain ⟨rfl, hcarries⟩ := Option.filter_eq_some_iff.1 hfound
      exact ⟨_, _, open_certificate_found h htext hcarries⟩

/-- Whether a directory is there, or can be made, and can be kept for its owner alone. -/
def CanPrepare (directory : Path) (start : Machine) : Prop :=
  ∃ between, (privateDirectory host directory).run start = (.ok (), between)

/-- A directory that is there is one. -/
theorem can_prepare_there (h : start.files.IsThere directory) : CanPrepare directory start := by
  obtain ⟨mode, hthere⟩ := h
  obtain ⟨files, -, hprepared⟩ := private_directory_runs hthere
  exact ⟨_, hprepared⟩

/-- A directory that can be prepared is there then, and its files are as they were. -/
theorem CanPrepare.files (h : CanPrepare directory start) :
    ∃ files, (privateDirectory host directory).run start = (.ok (), { start with files }) ∧
      files.IsThere directory ∧ ∀ name, Path.IsName name →
        files.find? (directory.child name).parts = start.files.find? (directory.child name).parts := by
  obtain ⟨between, hprepared⟩ := h
  obtain ⟨files, rfl, hfacts⟩ := of_private_directory hprepared
  exact ⟨files, hprepared, hfacts⟩

/-- In a directory that can be prepared, whose two files are missing or texts, opening an authority
comes down to making it of the key and the certificate that are opened. -/
theorem open_in_prepared {keyText certificateText : Option String}
    (h : CanPrepare directory start)
    (hkey : start.files.textAt (directory.child keyFile).parts = .ok keyText)
    (hcertificate : start.files.textAt (directory.child certificateFile).parts =
      .ok certificateText) :
    ∃ key machine text after, KeyOpened suite directory start key machine ∧
      CertificateOpened suite directory machine key text after ∧
        (Authority.openIn host suite directory).run start =
          (Authority.ofTexts suite text key.text, after) := by
  obtain ⟨files, hprepared, hthere, hfind⟩ := h.files
  have hkeyText : files.textAt (directory.child keyFile).parts = .ok keyText :=
    (Tree.text_at_congr (hfind _ key_file_name)).trans hkey
  obtain ⟨key, machine, hkeyRun⟩ :=
    @open_key_runs suite directory { start with files } _ hthere hkeyText
  have hopened := key_opened hprepared hkeyRun
  have htext : machine.files.textAt (directory.child certificateFile).parts =
      .ok certificateText := (Tree.text_at_congr hopened.certificate_eq).trans hcertificate
  obtain ⟨text, after, hcertificateRun⟩ := @open_certificate_runs suite _ _ _ hopened.there htext key
  refine ⟨key, machine, text, after, hopened, certificate_opened hopened.there hcertificateRun, ?_⟩
  exact (run_steps hprepared).trans ((run_steps hkeyRun).trans (run_steps hcertificateRun))

/-- Where the file of the key is no text, no authority is opened. -/
theorem open_in_key_fails {fault : Files.Fault} (h : CanPrepare directory start)
    (hkey : start.files.textAt (directory.child keyFile).parts = .error fault) :
    ∃ after, (Authority.openIn host suite directory).run start = (.error (.file fault), after) := by
  obtain ⟨files, hprepared, hthere, hfind⟩ := h.files
  have hkeyText : files.textAt (directory.child keyFile).parts = .error fault :=
    (Tree.text_at_congr (hfind _ key_file_name)).trans hkey
  have hfails := @open_key_fails suite directory { start with files } _ hthere hkeyText
  exact ⟨_, (run_steps hprepared).trans (run_fails hfails)⟩

/-- Nor is one where the file of the certificate is no text. -/
theorem open_in_certificate_fails {keyText : Option String} {fault : Files.Fault}
    (h : CanPrepare directory start)
    (hkey : start.files.textAt (directory.child keyFile).parts = .ok keyText)
    (hcertificate : start.files.textAt (directory.child certificateFile).parts = .error fault) :
    ∃ after, (Authority.openIn host suite directory).run start = (.error (.file fault), after) := by
  obtain ⟨files, hprepared, hthere, hfind⟩ := h.files
  have hkeyText : files.textAt (directory.child keyFile).parts = .ok keyText :=
    (Tree.text_at_congr (hfind _ key_file_name)).trans hkey
  obtain ⟨key, machine, hkeyRun⟩ :=
    @open_key_runs suite directory { start with files } _ hthere hkeyText
  have hopened := key_opened hprepared hkeyRun
  have htext : machine.files.textAt (directory.child certificateFile).parts = .error fault :=
    (Tree.text_at_congr hopened.certificate_eq).trans hcertificate
  have hfails := @open_certificate_fails suite _ _ key _ hopened.there htext
  exact ⟨_, (run_steps hprepared).trans ((run_steps hkeyRun).trans (run_fails hfails))⟩

end Runs

end EdgeFleet.Pki
