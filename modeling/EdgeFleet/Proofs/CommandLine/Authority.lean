import EdgeFleet.CommandLine.Run
import EdgeFleet.Proofs.Pki.Opening

/-!
# Tasks with the authority

What runs of the program do to the key of an authority. `authority_key_kept` is the main result: no
task replaces a key that can be read, except for one that writes credentials to the directory of
the authority, and that one does.
-/

namespace EdgeFleet

open CommandLine Crypto Files

/-- What tasks are carried out with on a machine that is a value, from which there is no way to
nodes. -/
def Machine.tools (suite : Suite) : Tools (StateM Machine) where
  host := host
  suite := suite
  library := Pki.tlsLibrary suite
  operate operation := return (operation.run .unreachable ()).1

/-- Carries out a task with the authority in a run of its own. -/
def Machine.runAuthority (suite : Suite) (overrides : Overrides) (task : AuthorityTask) :
    StateM Machine (Except Failure String) :=
  ((tools suite).perform ⟨overrides, .authority task⟩).run

/-- The machine after tasks with the authority, each in a run of its own. -/
def Machine.afterAuthority (suite : Suite) (machine : Machine) :
    List (Overrides × AuthorityTask) → Machine
  | [] => machine
  | (overrides, task) :: rest =>
    afterAuthority suite (runAuthority suite overrides task machine).2 rest

/-- Whether a task writes no credentials to a directory. Directories are told apart by the parts of
their paths: `ca`, `./ca/` and `x/../ca` are the same one, but another way there, from the top of
all places or over a link, counts as another directory. -/
def CommandLine.AuthorityTask.Spares (directory : Path) : AuthorityTask → Prop
  | .open | .sign _ => True
  | .issueServer _ out => out.parts ≠ directory.parts

namespace Machine

open Pki

section Keeps

variable {entropy : Nat → Bytes} {draws : Nat} {place : List String} {content : Bytes}
  {suite : Suite} {directory : Path}

/-- A step of a task keeps what the step alone does. -/
theorem attempt_keeps {ε α : Type} {holds : Machine → Prop} {failure : ε → Failure}
    {action : StateM Machine (Except ε α)} (h : Keeps holds action) :
    Keeps holds (Tools.attempt failure action).run :=
  .map_error _ h

/-- Reading the settings keeps all files. -/
theorem settings_keep (overrides : Overrides) :
    Keeps (Holds entropy draws place content) ((tools suite).settings overrides).run := by
  unfold Tools.settings
  cases overrides.config with
  | none => exact .ok fun _ h => h
  | some path =>
      have hload : Keeps (Holds entropy draws place content)
          ((tools suite).load path Settings.parse) := by
        refine .bind read_text_keeps fun result => ?_
        cases result with
        | ok text => exact Keeps.calculated (Settings.parse text)
        | error fault => exact fun _ h => h
      exact .steps (attempt_keeps hload) fun _ => .ok fun _ h => h

end Keeps

section Key

variable {entropy : Nat → Bytes} {draws : Nat} {content : Bytes} {suite : Suite}
  {directory out : Path} {text : String} {key : PrivateKey}
  (htext : Files.text content = .ok text) (hkey : PrivateKey.ofText? suite text = some key)
include htext hkey

/-- A task that writes no credentials to the directory of a key that can be read keeps the key. -/
theorem run_authority_keeps (overrides : Overrides) {task : AuthorityTask}
    (htask : task.Spares directory) :
    Keeps (Holds entropy draws (directory.child keyFile).parts content)
      (runAuthority suite overrides task) := by
  refine .steps (settings_keep overrides) fun settings =>
    .steps (attempt_keeps (open_in_keeps htext hkey _)) fun authority => ?_
  cases task with
  | «open» => exact .ok fun _ h => h
  | sign path =>
      refine .steps (attempt_keeps (.of_after read_text_keeps)) fun request => ?_
      exact .steps (attempt_keeps (Keeps.calculated _)) fun bytes =>
        attempt_keeps (enroll_keeps authority bytes)
  | issueServer name out =>
      exact .steps (attempt_keeps (.of_knowing (issue_leads authority name))) fun credentials =>
        .steps (attempt_keeps (write_to_keeps htask credentials)) fun _ => .ok fun _ h => h

/-- One that does replaces the key if it ends well. -/
theorem run_authority_replaces (overrides : Overrides) (name : String)
    (hout : out.parts = directory.parts) :
    Triple (Holds entropy draws (directory.child keyFile).parts content)
      (runAuthority suite overrides (.issueServer name out))
      (Either (fun _ machine => ∃ draw ≥ draws, Holds entropy draws (directory.child keyFile).parts
        (.ofText (drawnKey suite entropy draw).text) machine) fun _ => True) := by
  -- The key is still the old one when the credentials are written.
  refine .steps (settings_keep overrides).if_ok fun settings =>
    .steps (attempt_keeps (open_in_keeps htext hkey _)).if_ok fun authority => ?_
  refine .steps (.map_error _ (issue_leads authority name).if_ok) fun credentials =>
    .knowing ?_
  rintro ⟨draw, hdraw, hcredentials⟩
  refine .steps (.map_error _ (write_to_replaces hout credentials)) fun _ => .ok fun _ h => ?_
  exact ⟨draw, hdraw, hcredentials ▸ h⟩

/-- Tasks that write no credentials to the directory of a key that can be read keep the key. -/
theorem after_authority_keeps {machine : Machine}
    (h : Holds entropy draws (directory.child keyFile).parts content machine)
    {invocations : List (Overrides × AuthorityTask)}
    (hspares : ∀ invocation ∈ invocations, invocation.2.Spares directory) :
    Holds entropy draws (directory.child keyFile).parts content
      (machine.afterAuthority suite invocations) := by
  induction invocations generalizing machine with
  | nil => exact h
  | cons invocation rest ih =>
      have hfirst := hspares invocation List.mem_cons_self
      exact ih ((run_authority_keeps htext hkey invocation.1 hfirst).holds_after h)
        fun later hlater => hspares later (List.mem_cons_of_mem _ hlater)

end Key

section Issue

variable {suite : Suite} {overrides : Overrides} {directory out : Path} {authority : Authority}
  {issuer : PlainName} {machine : Machine}
  (hconfig : overrides.config = none) (hdirectory : overrides.authority = some directory.text)
  (hopen : InOrder suite directory authority machine.files) (hissuer : authority.name = .ok issuer)
  (hready : machine.files.Ready out [certificateFile, keyFile, authorityFile])
include hconfig hdirectory hopen hissuer hready

/-- A server gets credentials of an authority that is in order. -/
theorem issue_server_runs (name : String) :
    (runAuthority suite overrides (.issueServer name out) machine).1 = .ok "" := by
  have hsettings : ((tools suite).settings overrides).run machine =
      (.ok (overrides.apply .standard), machine) := by
    rw [Tools.settings, hconfig]
    rfl
  have hauthority : (overrides.apply .standard).authority = directory.text := by
    rw [Overrides.apply, hdirectory]
    rfl
  obtain ⟨files, hset, hopened⟩ := open_in_order hopen
  obtain ⟨credentials, issued, hfiles, hissued⟩ :=
    issue_runs suite hissuer name { machine with files }
  obtain ⟨written, hwritten⟩ := write_to_ready credentials
    (show issued.files.Ready out _ from hfiles ▸ hready.set_mode hset)
  have hperform : ((tools suite).performAuthority (overrides.apply .standard)
      (.issueServer name out)).run machine = (.ok "", written) := by
    rw [Tools.performAuthority, hauthority]
    exact (run_steps (run_map_error _ hopened)).trans
      ((run_steps (run_map_error _ hissued)).trans (run_steps (run_map_error _ hwritten)))
  have hrun : runAuthority suite overrides (.issueServer name out) machine = (.ok "", written) := by
    rw [runAuthority, Tools.perform, run_steps hsettings]
    exact hperform
  rw [hrun]

/-- If they are written to the directory of the authority, the authority loses its key. -/
theorem issue_server_replaces (name : String) (hout : out.parts = directory.parts) :
    ∃ draw ≥ machine.draws,
      (runAuthority suite overrides (.issueServer name out) machine).2.files.read
        (directory.child keyFile) =
          .ok (.ofText (drawnKey suite machine.entropy draw).text) := by
  obtain ⟨content, text, hread, htext, hkey⟩ := hopen.key_read
  have hreplaced := run_authority_replaces htext hkey overrides name hout machine
    ⟨rfl, Nat.le_refl _, Tree.content_of_read hread⟩
  rw [issue_server_runs hconfig hdirectory hopen hissuer hready name] at hreplaced
  obtain ⟨draw, hdraw, hnew⟩ := hreplaced
  exact ⟨draw, hdraw, Tree.read_elsewhere hread hnew.content_eq⟩

end Issue

end Machine

open Pki

/-- The key of an authority, once it can be read, is kept by all tasks with any authority that write
no credentials to its directory, whatever they end in. A task that does write credentials to the
directory, and ends well, replaces the key by one that has just been made. -/
theorem authority_key_kept (suite : Suite) {machine : Machine} {directory : Path} {content : Bytes}
    {text : String} {key : PrivateKey}
    (hread : machine.files.read (directory.child keyFile) = .ok content)
    (htext : Files.text content = .ok text) (hkey : PrivateKey.ofText? suite text = some key)
    {invocations : List (Overrides × AuthorityTask)}
    (hspares : ∀ invocation ∈ invocations, invocation.2.Spares directory) :
    let after := machine.afterAuthority suite invocations
    after.files.read (directory.child keyFile) = .ok content ∧
      ∀ overrides name out shown, out.parts = directory.parts →
        (Machine.runAuthority suite overrides (.issueServer name out) after).1 = .ok shown →
          ∃ draw ≥ machine.draws,
            (Machine.runAuthority suite overrides (.issueServer name out) after).2.files.read
              (directory.child keyFile) =
                .ok (.ofText (drawnKey suite machine.entropy draw).text) := by
  intro after
  -- The draws so far are part of the invariant, so that the new key comes from a later one.
  have hkept : Machine.Holds machine.entropy machine.draws (directory.child keyFile).parts content
      after :=
    Machine.after_authority_keeps htext hkey
      ⟨rfl, Nat.le_refl _, Tree.content_of_read hread⟩ hspares
  refine ⟨Tree.read_elsewhere hread hkept.content_eq, ?_⟩
  intro overrides name out shown hout hended
  have hreplaced := Machine.run_authority_replaces htext hkey overrides name hout after hkept
  rw [hended] at hreplaced
  obtain ⟨draw, hdraw, hnew⟩ := hreplaced
  exact ⟨draw, hdraw, Tree.read_elsewhere hread hnew.content_eq⟩

namespace Machine.Sample

/-- A machine with an authority in a directory. -/
def machine : Machine where
  files := Pki.Sample.files
  clock := 0
  entropy _ := List.replicate 48 2
  draws := 0

/-- Tells a run where the authority is. -/
def overrides : Overrides :=
  ⟨none, none, some Pki.Sample.directory.text, none, none, none, none, false⟩

end Machine.Sample

open Machine.Sample in
/-- The key survives the opening of the authority and credentials that are written elsewhere. -/
theorem authority_key_kept_elsewhere :
    let after := machine.afterAuthority .standard
      [(overrides, .open), (overrides, .issueServer "n" ⟨"node"⟩)]
    after.files.read (Pki.Sample.directory.child keyFile) =
      .ok (.ofText Pki.Sample.key.text) := by
  have hread : machine.files.read (Pki.Sample.directory.child keyFile) =
      .ok (.ofText Pki.Sample.key.text) := Pki.Sample.key_there
  have hnode : Path.parts ⟨"node"⟩ ≠ Pki.Sample.directory.parts := by decide +kernel
  have hspares : ∀ invocation ∈ [(overrides, AuthorityTask.open),
      (overrides, .issueServer "n" ⟨"node"⟩)], invocation.2.Spares Pki.Sample.directory := by
    simpa [AuthorityTask.Spares] using hnode
  exact (authority_key_kept .standard hread (text_of_text _)
    (PrivateKey.of_text_text Pki.Sample.key_reads) hspares).1

open Machine.Sample in
/-- Credentials that are written to the directory of the authority replace its key. -/
theorem authority_key_replaced :
    machine.files.read (Pki.Sample.directory.child keyFile) = .ok (.ofText Pki.Sample.key.text) ∧
      PrivateKey.ofText? .standard Pki.Sample.key.text = some Pki.Sample.key ∧
      (Machine.runAuthority .standard overrides (.issueServer "n" Pki.Sample.directory)
        machine).2.files.read (Pki.Sample.directory.child keyFile) ≠
          .ok (.ofText Pki.Sample.key.text) := by
  refine ⟨Pki.Sample.key_there, PrivateKey.of_text_text Pki.Sample.key_reads, fun hkept => ?_⟩
  obtain ⟨issuer, hissuer⟩ := Pki.Sample.name_clear
  have hdirectory : overrides.authority = some Pki.Sample.directory.text := rfl
  have hopen : InOrder .standard Pki.Sample.directory Pki.Sample.authority machine.files :=
    Pki.Sample.in_order
  obtain ⟨draw, -, hnew⟩ :=
    Machine.issue_server_replaces rfl hdirectory hopen hissuer Pki.Sample.ready "n" rfl
  have hdiffer : Pki.Sample.key.document ≠
      (PrivateKey.generate .standard ((List.replicate 48 2).take keyEntropy)).document := by
    decide +kernel
  exact hdiffer (PrivateKey.document_of_text (Except.ok.inj (hkept.symm.trans hnew)))

end EdgeFleet
