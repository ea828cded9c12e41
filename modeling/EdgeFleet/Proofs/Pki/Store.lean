import EdgeFleet.Pki.Store
import EdgeFleet.Proofs.Host

/-!
# What becomes of an authority's key

The file of a key that can be read survives the opening of any authority, the one that it belongs to
included (`open_in_keeps`), and everything that an authority is asked to sign. Credentials that are
written to a directory replace the key that is there (`write_to_replaces`), and leave those in other
directories alone (`write_to_keeps`).
-/

namespace EdgeFleet.Pki

open Crypto Files Machine

/-- The key that is made from the bytes of a draw. -/
def drawnKey (suite : Suite) (entropy : Nat → Bytes) (draw : Nat) : PrivateKey :=
  .generate suite ((entropy draw).take keyEntropy)

theorem key_file_name : Path.IsName keyFile := by
  constructor <;> decide

theorem certificate_file_name : Path.IsName certificateFile := by
  constructor <;> decide

theorem authority_file_name : Path.IsName authorityFile := by
  constructor <;> decide

section Keeps

variable {entropy : Nat → Bytes} {draws : Nat} {place : List String} {content : Bytes}
  {directory path : Path} (suite : Suite)

/-- An access to files keeps what the access alone does. -/
theorem access_keeps {α : Type} {holds : Machine → Prop}
    {action : StateM Machine (Except Files.Fault α)} (h : Keeps holds action) :
    Keeps holds (access action).run :=
  .map_error _ h

/-- Making a directory for its owner alone keeps all files. -/
theorem private_directory_keeps :
    Keeps (Holds entropy draws place content) (privateDirectory host path).run :=
  .steps (access_keeps create_directory_keeps) fun _ => access_keeps (set_mode_keeps _)

/-- Writing a text to another file keeps a file. -/
theorem store_keeps (hplace : place ≠ path.parts) (text : String) :
    Keeps (Holds entropy draws place content) (store host path text).run :=
  access_keeps (write_private_keeps hplace _)

/-- Loading a text keeps all files. -/
theorem load_keeps : Keeps (Holds entropy draws place content) (load? host path).run := by
  refine .bind read_text_keeps fun result => ?_
  cases result with
  | ok text => exact fun _ h => h
  | error fault => cases fault <;> exact fun _ h => h

/-- A new key is made from bytes that were not drawn before. -/
theorem new_key_leads {failed : Machine → Prop} :
    Triple (Holds entropy draws place content) (newKey host suite).run
      (Either (fun key machine => (∃ draw ≥ draws, key = drawnKey suite entropy draw) ∧
        Holds entropy draws place content machine) failed) := by
  refine .steps (.lift (random_leads keyEntropy)) fun bytes => .ok ?_
  rintro machine ⟨⟨draw, hdraw, rfl⟩, h⟩
  exact ⟨⟨draw, hdraw, rfl⟩, h⟩

/-- A new key keeps all files. -/
theorem new_key_keeps : Keeps (Holds entropy draws place content) (newKey host suite).run :=
  .of_knowing (new_key_leads suite)

/-- A new number for a certificate keeps all files. -/
theorem new_serial_keeps : Keeps (Holds entropy draws place content) (newSerial host).run :=
  .steps (.lift (random_leads serialEntropy)) fun _ => .ok fun _ h => h.2

/-- What is loaded from a file with a text is this text, or nothing can be loaded. -/
theorem load_leads (directory : Path) {name text : String} (hname : Path.IsName name)
    (hplace : place = (directory.child name).parts) (htext : Files.text content = .ok text) :
    Triple (Holds entropy draws place content) (load? host (directory.child name)).run
      (Either (fun loaded machine => loaded = some text ∧ Holds entropy draws place content machine)
        (Holds entropy draws place content)) := by
  refine .bind (read_text_leads hplace (Path.child_ne_empty directory hname)
    (Path.child_open directory hname)) fun result => .knowing ?_
  rintro (rfl | rfl)
  · rw [htext]
    exact fun _ h => ⟨rfl, h⟩
  · exact fun _ h => h

variable {suite}

/-- Opening a key keeps a file if the key is in another one. -/
theorem open_key_keeps (hplace : place ≠ path.parts) :
    Keeps (Holds entropy draws place content) (openKey host suite path).run := by
  refine .steps load_keeps fun loaded => ?_
  cases loaded.bind (PrivateKey.ofText? suite) with
  | some key => exact .ok fun _ h => h
  | none =>
      exact .steps (new_key_keeps suite) fun key =>
        .steps (store_keeps hplace key.text) fun _ => .ok fun _ h => h

/-- Opening a key that can be read keeps its file. -/
theorem open_key_keeps_readable {text : String} {key : PrivateKey}
    (hplace : place = (directory.child keyFile).parts) (htext : Files.text content = .ok text)
    (hkey : PrivateKey.ofText? suite text = some key) :
    Keeps (Holds entropy draws place content)
      (openKey host suite (directory.child keyFile)).run := by
  refine .steps (load_leads directory key_file_name hplace htext) fun loaded => ?_
  rintro machine ⟨rfl, h⟩
  rw [Option.bind_some, hkey]
  exact h

/-- Opening a certificate keeps all other files. -/
theorem open_certificate_keeps (hplace : place ≠ path.parts) (key : PrivateKey) :
    Keeps (Holds entropy draws place content) (openCertificate host suite path key).run := by
  refine .steps load_keeps fun found => ?_
  have hmade : Keeps (Holds entropy draws place content) (do
      let serial ← newSerial host
      let text := rootCertificate suite key serial (← host.now)
      store host path text
      return text : ExceptT Fault (StateM Machine) String).run :=
    .steps new_serial_keeps fun serial => .steps (.lift now_keeps) fun now =>
      .steps (store_keeps hplace _) fun _ => .ok fun _ h => h
  cases found.filter fun text => carries suite text key with
  | some text => exact .ok fun _ h => h
  | none =>
      cases found with
      | none => exact hmade
      | some text => exact .steps (access_keeps (remove_keeps hplace)) fun _ => hmade

end Keeps

/-! ### An authority beside the file of a key -/

section Beside

variable {entropy : Nat → Bytes} {draws : Nat} {content : Bytes} {directory : Path} {suite : Suite}

/-- No certificate is in the place of a key. -/
theorem certificate_place (directory other : Path) :
    (directory.child keyFile).parts ≠ (other.child certificateFile).parts := fun h =>
  absurd ((Path.parts_child_inj key_file_name certificate_file_name).1 h).2 (by decide)

/-- Nor is that of an authority beside the credentials of others. -/
theorem authority_place (directory other : Path) :
    (directory.child keyFile).parts ≠ (other.child authorityFile).parts := fun h =>
  absurd ((Path.parts_child_inj key_file_name authority_file_name).1 h).2 (by decide)

/-- Opening an authority in any directory keeps the file of a key that can be read. -/
theorem open_in_keeps {text : String} {key : PrivateKey} (htext : Files.text content = .ok text)
    (hkey : PrivateKey.ofText? suite text = some key) (other : Path) :
    Keeps (Holds entropy draws (directory.child keyFile).parts content)
      (Authority.openIn host suite other).run := by
  -- The other directory may be the same one, written differently: then its key is the one that can
  -- be read, and is not made anew.
  have hopen : Keeps (Holds entropy draws (directory.child keyFile).parts content)
      (openKey host suite (other.child keyFile)).run := by
    by_cases hplace : (directory.child keyFile).parts = (other.child keyFile).parts
    · exact open_key_keeps_readable hplace htext hkey
    · exact open_key_keeps hplace
  exact .steps private_directory_keeps fun _ => .steps hopen fun key =>
    .steps (open_certificate_keeps (certificate_place directory other) key) fun _ =>
      Keeps.calculated _

/-- Answering a request keeps all files. -/
theorem enroll_keeps {place : List String} (authority : Authority) (request : Bytes) :
    Keeps (Holds entropy draws place content) (authority.enroll host suite request).run :=
  .steps new_serial_keeps fun _ => .steps (.lift now_keeps) fun _ => Keeps.calculated _

/-- The key in new credentials is made from bytes that were not drawn before. -/
theorem issue_leads {place : List String} (authority : Authority) (name : String) :
    Triple (Holds entropy draws place content)
      (ServerCredentials.issue host suite authority name).run
      (Either (fun credentials machine =>
        (∃ draw ≥ draws, credentials.key = drawnKey suite entropy draw) ∧
          Holds entropy draws place content machine) (Holds entropy draws place content)) := by
  refine .steps (new_key_leads suite) fun key => .knowing fun hkey => ?_
  refine .steps new_serial_keeps fun serial => .steps (.bind now_keeps fun now =>
    Keeps.calculated _) fun certificate => ?_
  exact .ok fun _ h => ⟨hkey, h⟩

variable {out : Path}

/-- Writing credentials to another directory keeps the file of a key. -/
theorem write_to_keeps (hout : out.parts ≠ directory.parts) (credentials : ServerCredentials) :
    Keeps (Holds entropy draws (directory.child keyFile).parts content)
      (credentials.writeTo host out).run := by
  have hkey : (directory.child keyFile).parts ≠ (out.child keyFile).parts := fun h =>
    hout ((Path.parts_child_inj key_file_name key_file_name).1 h).1.symm
  exact .steps private_directory_keeps fun _ =>
    .steps (store_keeps (certificate_place directory out) _) fun _ =>
      .steps (store_keeps hkey _) fun _ => store_keeps (authority_place directory out) _

/-- Writing credentials to the same directory replaces the key. -/
theorem write_to_replaces (hout : out.parts = directory.parts) (credentials : ServerCredentials) :
    Triple (Holds entropy draws (directory.child keyFile).parts content)
      (credentials.writeTo host out).run
      (Either (fun _ => Holds entropy draws (directory.child keyFile).parts
        (.ofText credentials.key.text)) fun _ => True) := by
  have hkey : (directory.child keyFile).parts = (out.child keyFile).parts :=
    (Path.parts_child_inj key_file_name key_file_name).2 ⟨hout.symm, rfl⟩
  -- Of the four steps, only the third writes the file of the key.
  refine .steps private_directory_keeps.if_ok fun _ => ?_
  refine .steps (store_keeps (certificate_place directory out) _).if_ok fun _ => ?_
  refine .steps (Triple.map_error _ (write_private_replaces hkey _)).if_ok fun _ => ?_
  exact (store_keeps (authority_place directory out) _).if_ok

end Beside

end EdgeFleet.Pki
