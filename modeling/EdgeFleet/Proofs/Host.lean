import EdgeFleet.Host
import EdgeFleet.Proofs.Files.Tree

/-!
# What actions on a machine lead to

`Triple` says what holds of the result of an action and of the machine after it, given what holds of
the machine before. The rules go along the structure of a program: `Triple.bind` for one step after
another, and the theorems on `Machine.host` for single steps. Where it is known how every step ends,
`run_steps` gives the machine after all of them.
-/

namespace EdgeFleet.Machine

variable {α β ε ε' : Type} {before : Machine → Prop} {after between : α → Machine → Prop}
  {failed : Machine → Prop}

/-- Whether an action leads from machines of which `before` holds to results and machines of which
`after` holds. -/
def Triple (before : Machine → Prop) (action : StateM Machine α) (after : α → Machine → Prop) :
    Prop :=
  ∀ machine, before machine → after (action machine).1 (action machine).2

/-- What holds after an action that may fail: `after` if it ended well, and else `failed`. -/
def Either (after : α → Machine → Prop) (failed : Machine → Prop) : Except ε α → Machine → Prop
  | .ok value, machine => after value machine
  | .error _, machine => failed machine

/-- Whether an action that may fail leaves true what held before, however it ends. -/
def Keeps (holds : Machine → Prop) (action : StateM Machine (Except ε α)) : Prop :=
  Triple holds action (Either (fun _ => holds) holds)

namespace Triple

/-- An action after another starts where the first has led to. -/
theorem bind {action : StateM Machine α} {next : α → StateM Machine β}
    {after : β → Machine → Prop} (hfirst : Triple before action between)
    (hnext : ∀ value, Triple (between value) (next value) after) :
    Triple before (action >>= next) after :=
  fun machine h => hnext _ _ (hfirst machine h)

/-- What holds after an action may be said more loosely. -/
theorem weaken {action : StateM Machine α} (h : Triple before action between)
    (hafter : ∀ value machine, between value machine → after value machine) :
    Triple before action after :=
  fun machine hbefore => hafter _ _ (h machine hbefore)

/-- What is known apart from the machine can be used in what follows. -/
theorem knowing {fact : Prop} {action : StateM Machine α}
    (h : fact → Triple before action after) :
    Triple (fun machine => fact ∧ before machine) action after :=
  fun machine hbefore => h hbefore.1 machine hbefore.2

/-- A result of an action that may fail leaves the machine alone. -/
theorem ok {value : α} (h : ∀ machine, before machine → after value machine) :
    Triple before (pure value : ExceptT ε (StateM Machine) α).run (Either after failed) := h

/-- A step after another that may fail starts where the first has led to if it ended well. -/
theorem steps {action : ExceptT ε (StateM Machine) α} {next : α → ExceptT ε (StateM Machine) β}
    {after : β → Machine → Prop} (hfirst : Triple before action.run (Either between failed))
    (hnext : ∀ value, Triple (between value) (next value).run (Either after failed)) :
    Triple before (action >>= next).run (Either after failed) := by
  rw [ExceptT.run_bind]
  refine .bind hfirst fun result => ?_
  cases result with
  | ok value => exact hnext value
  | error error => exact fun _ h => h

/-- Other words for a failure do not change what an action leads to. -/
theorem map_error {action : StateM Machine (Except ε α)} (f : ε → ε')
    (h : Triple before action (Either after failed)) :
    Triple before (do return (← action).mapError f) (Either after failed) := by
  refine .bind h fun result => ?_
  cases result with
  | ok value => exact fun _ h => h
  | error error => exact fun _ h => h

/-- A step that cannot fail, as a step that may. -/
theorem lift {action : StateM Machine α} (h : Triple before action after) :
    Triple before (liftM action : ExceptT ε (StateM Machine) α).run (Either after failed) :=
  .bind h fun _ => .ok fun _ h => h

end Triple

/-- Where it does not matter what a failure leaves, less has to be said. -/
theorem Triple.if_ok {action : StateM Machine (Except ε α)}
    (h : Triple before action (Either after failed)) :
    Triple before action (Either after fun _ => True) :=
  h.weaken fun result _ h =>
    match result, h with
    | .ok _, h => h
    | .error _, _ => trivial

namespace Keeps

variable {holds : Machine → Prop} {action : StateM Machine (Except ε α)}

/-- However the action ends, what it keeps holds. -/
theorem holds_after (h : Keeps holds action) {machine : Machine} (hbefore : holds machine) :
    holds (action machine).2 := by
  have hafter := h machine hbefore
  cases hresult : (action machine).1 with
  | ok value => rwa [hresult] at hafter
  | error error => rwa [hresult] at hafter

/-- What always holds afterwards is kept. -/
theorem of_after (h : Triple holds action fun _ => holds) : Keeps holds action :=
  h.weaken fun result _ h =>
    match result with
    | .ok _ => h
    | .error _ => h

/-- What is known of the result besides does not matter for what is kept. -/
theorem of_knowing {fact : α → Prop}
    (h : Triple holds action (Either (fun value machine => fact value ∧ holds machine) holds)) :
    Keeps holds action :=
  h.weaken fun result _ h =>
    match result, h with
    | .ok _, h => h.2
    | .error _, h => h

/-- A calculation keeps everything. -/
theorem calculated (result : Except ε α) :
    Keeps holds (ExceptT.mk (pure result) : ExceptT ε (StateM Machine) α).run := by
  cases result with
  | ok value => exact fun _ h => h
  | error error => exact fun _ h => h

end Keeps

/-- A step that ends well hands its machine to the next. -/
theorem run_steps {action : ExceptT ε (StateM Machine) α} {next : α → ExceptT ε (StateM Machine) β}
    {value : α} {machine after : Machine} (h : action.run machine = (.ok value, after)) :
    (action >>= next).run machine = (next value).run after := by
  have hbind (f : Except ε α → StateM Machine (Except ε β)) :
      (action.run >>= f) machine = f (action.run machine).1 (action.run machine).2 := rfl
  rw [ExceptT.run_bind, hbind, h]

/-- A step that fails is the last one. -/
theorem run_fails {action : ExceptT ε (StateM Machine) α} {next : α → ExceptT ε (StateM Machine) β}
    {error : ε} {machine after : Machine} (h : action.run machine = (.error error, after)) :
    (action >>= next).run machine = (.error error, after) := by
  have hbind (f : Except ε α → StateM Machine (Except ε β)) :
      (action.run >>= f) machine = f (action.run machine).1 (action.run machine).2 := rfl
  rw [ExceptT.run_bind, hbind, h]
  rfl

/-- Steps that end well have ended well one by one. -/
theorem of_run_steps {action : ExceptT ε (StateM Machine) α}
    {next : α → ExceptT ε (StateM Machine) β} {result : β} {machine after : Machine}
    (h : (action >>= next).run machine = (.ok result, after)) :
    ∃ value between, action.run machine = (.ok value, between) ∧
      (next value).run between = (.ok result, after) := by
  cases hrun : action.run machine with
  | mk ended between =>
      cases ended with
      | ok value => exact ⟨value, between, rfl, (run_steps hrun).symm.trans h⟩
      | error error =>
          rw [run_fails hrun] at h
          cases h

/-- An action that ends well does so whatever the words for its failures are. -/
theorem run_map_error {action : StateM Machine (Except ε α)} {value : α} {machine after : Machine}
    (f : ε → ε') (h : action machine = (.ok value, after)) :
    (do return (← action).mapError f : StateM Machine (Except ε' α)) machine =
      (.ok value, after) := by
  show ((action machine).1.mapError f, (action machine).2) = _
  rw [h]
  rfl

/-- A change of the files that can be made is made. -/
theorem change_runs {machine : Machine} {files : Files.Tree}
    (act : Files.Tree → Except Files.Fault Files.Tree) (h : act machine.files = .ok files) :
    change act machine = (.ok (), { machine with files }) := by
  rw [change, h]

/-- A change of the files that ended well was made, and changes nothing else. -/
theorem of_change {machine after : Machine} {act : Files.Tree → Except Files.Fault Files.Tree}
    (h : change act machine = (.ok (), after)) :
    ∃ files, act machine.files = .ok files ∧ after = { machine with files } := by
  rw [change] at h
  split at h
  · next files hact => exact ⟨files, hact, (congrArg Prod.snd h).symm⟩
  · cases h

/-- A change of the files leads to what holds of the changed files, or fails and changes nothing. -/
theorem change_leads {after : Unit → Machine → Prop}
    {act : Files.Tree → Except Files.Fault Files.Tree}
    (h : ∀ machine, before machine → ∀ files, act machine.files = .ok files →
      after () { machine with files }) :
    Triple before (change act) (Either after before) := by
  intro machine hbefore
  rw [change]
  split
  · next files hact => exact h machine hbefore files hact
  · exact hbefore

/-- A machine on which the file at a place has a content, and which has drawn at least so often from
this source of bytes that nobody can guess. -/
structure Holds (entropy : Nat → Bytes) (draws : Nat) (place : List String) (content : Bytes)
    (machine : Machine) : Prop where
  entropy_eq : machine.entropy = entropy
  draws_le : draws ≤ machine.draws
  content_eq : machine.files.content? place = some content

section Holds

open Files

variable {entropy : Nat → Bytes} {draws : Nat} {place : List String} {content bytes : Bytes}
  {machine : Machine} {path : Path}

/-- Files that keep the content keep all of it. -/
theorem Holds.change_files (h : Holds entropy draws place content machine) {files : Tree}
    (hfiles : files.content? place = some bytes) :
    Holds entropy draws place bytes { machine with files } :=
  ⟨h.entropy_eq, h.draws_le, hfiles⟩

theorem create_directory_keeps :
    Keeps (Holds entropy draws place content) (host.createDirectory path) :=
  change_leads fun _ h _ hcreate =>
    h.change_files (Tree.content_create_directory hcreate h.content_eq)

theorem set_mode_keeps (mode : Nat) :
    Keeps (Holds entropy draws place content) (host.setMode path mode) :=
  change_leads fun _ h _ hset => h.change_files (Tree.content_set_mode hset h.content_eq)

/-- Writing another file leaves a file alone. -/
theorem write_private_keeps (hplace : place ≠ path.parts) (bytes : Bytes) :
    Keeps (Holds entropy draws place content) (host.writePrivate path bytes) :=
  change_leads fun _ h _ hwrite =>
    h.change_files (Tree.content_write_other hwrite hplace h.content_eq)

/-- Writing a file gives it its content. -/
theorem write_private_replaces (hplace : place = path.parts) (bytes : Bytes) :
    Triple (Holds entropy draws place content) (host.writePrivate path bytes)
      (Either (fun _ => Holds entropy draws place bytes) (Holds entropy draws place content)) :=
  change_leads fun _ h _ hwrite => h.change_files (hplace ▸ Tree.content_write hwrite)

/-- Removing another file leaves a file alone. -/
theorem remove_keeps (hplace : place ≠ path.parts) :
    Keeps (Holds entropy draws place content) (host.remove path) :=
  change_leads fun _ h _ hremove =>
    h.change_files (Tree.content_remove_other hremove hplace h.content_eq)

/-- Bytes that nobody can guess are taken from the source, each once. -/
theorem random_leads (count : Nat) : Triple (Holds entropy draws place content)
    (host.random count) fun bytes machine => (∃ draw ≥ draws, bytes = (entropy draw).take count) ∧
      Holds entropy draws place content machine := by
  rintro machine ⟨rfl, hdraws, hcontent⟩
  exact ⟨⟨machine.draws, hdraws, rfl⟩, rfl, Nat.le_succ_of_le hdraws, hcontent⟩

/-- Asking for the time changes nothing. -/
theorem now_keeps {holds : Machine → Prop} : Triple holds host.now fun _ => holds :=
  fun _ h => h

/-- Nor does reading. -/
theorem read_text_keeps {holds : Machine → Prop} :
    Triple holds (host.readText path) fun _ => holds :=
  fun _ h => h

/-- What is read is the content of the file at the place, unless the path cannot be looked up. -/
theorem read_text_leads (hplace : place = path.parts) (hempty : path.text ≠ "")
    (hopen : path.text.endsWith "/" = false) :
    Triple (Holds entropy draws place content) (host.readText path) fun result machine =>
      (result = Files.text content ∨ result = .error .invalidName) ∧
        Holds entropy draws place content machine := by
  rintro machine h
  refine ⟨?_, h⟩
  subst hplace
  show (machine.files.read path).bind Files.text = _ ∨ (machine.files.read path).bind Files.text = _
  obtain hcheck | hcheck := Path.check_cases hempty
  · exact .inl (by rw [Tree.read_of_content h.content_eq hcheck hopen]; rfl)
  · exact .inr (by rw [Tree.read_of_check hcheck]; rfl)

end Holds

end EdgeFleet.Machine
