import EdgeFleet.Orchestration.Script
import EdgeFleet.Proofs.Cluster.Store
import EdgeFleet.Proofs.Orchestration.Program

/-!
# Calls to a scripted cluster

One call to the cluster of a script either meets a fault, which ends the program and changes
nothing, or is carried out by the store. `advance_fault` and `advance_performed` are the two cases;
everything about runs and interleavings of programs in a scripted world follows from them.
-/

namespace EdgeFleet

namespace ClusterReply

/-- The reply that a call to the cluster meets after `n` others. -/
def nth (replies : List ClusterReply) (n : Nat) : ClusterReply :=
  replies.getD n .perform

/-- The error that an operation ends in when a call meets this reply, if the reply is a fault. -/
def fault? (operation : String) : ClusterReply → Option Error
  | .fail error => some error
  | .hang => some (.deadlineExceeded (.operation operation))
  | .perform | .count _ => none

/-- Whether a call that meets this reply fails or hangs. -/
def isFault : ClusterReply → Bool
  | .fail _ | .hang => true
  | .perform | .count _ => false

/-- A reply is a fault exactly if an operation that meets it ends in an error. -/
theorem is_fault_eq (operation : String) (reply : ClusterReply) :
    reply.isFault = (reply.fault? operation).isSome := by
  cases reply <;> rfl

/-- Whether a request that meets this reply is carried out by the store alone. A count that the
script gives stands in for the store's. -/
def performs : ClusterReply → Cluster.Request → Bool
  | .perform, _ => true
  | .count _, .countNodes _ => false
  | .count _, _ => true
  | .fail _, _ | .hang, _ => false

/-- Nothing but a fault keeps the store from carrying out a request that is not a count. -/
theorem performs_of_fault {reply : ClusterReply} {request : Cluster.Request}
    (h : reply.isFault = false) (hrequest : ∀ nodeId, request ≠ .countNodes nodeId) :
    reply.performs request := by
  cases reply with
  | perform => rfl
  | count machines =>
      cases request with
      | countNodes nodeId => exact absurd rfl (hrequest nodeId)
      | _ => rfl
  | fail error => cases h
  | hang => cases h

end ClusterReply

namespace Script

/-- The reply that a call to the cluster meets after `n` others. -/
def reply (script : Script) (n : Nat) : ClusterReply :=
  .nth script.clusterReplies n

/-- The script after a call to the cluster, with the store as the call left it. -/
def noted (script : Script) (request : Cluster.Request) (store : Cluster.Store) : Script :=
  { script with
    clusterReplies := script.clusterReplies.tail, store, calls := .cluster request :: script.calls }

/-- The script with other replies to come. -/
def facing (script : Script) (replies : List ClusterReply) : Script :=
  { script with clusterReplies := replies }

/-- A script is steady if no fault is to come: every call to the cluster is carried out. -/
def Steady (script : Script) : Prop :=
  script.clusterReplies = []

/-- A script is faultless if no call to the cluster fails or hangs. It may still say how many
machines are counted. -/
def Faultless (script : Script) : Prop :=
  ∀ reply ∈ script.clusterReplies, reply.isFault = false

variable {script : Script} {request : Cluster.Request} {store : Cluster.Store}

@[simp] theorem store_noted : (script.noted request store).store = store := rfl

@[simp] theorem cluster_replies_noted :
    (script.noted request store).clusterReplies = script.clusterReplies.tail := rfl

@[simp] theorem store_facing (replies : List ClusterReply) :
    (script.facing replies).store = script.store := rfl

@[simp] theorem reply_facing (replies : List ClusterReply) (n : Nat) :
    (script.facing replies).reply n = .nth replies n := rfl

@[simp] theorem reply_noted (n : Nat) :
    (script.noted request store).reply n = script.reply (n + 1) := by
  simp [reply, ClusterReply.nth, List.getD_eq_getElem?_getD]

/-- A steady script stays steady. -/
theorem Steady.noted (h : script.Steady) : (script.noted request store).Steady := by
  unfold Steady at h ⊢
  rw [cluster_replies_noted, h, List.tail_nil]

/-- Under a steady script no call meets a fault. -/
theorem Steady.is_fault (h : script.Steady) (n : Nat) : (script.reply n).isFault = false := by
  unfold Steady at h
  simp [reply, ClusterReply.nth, h, ClusterReply.isFault]

/-- Under a steady script every call is carried out by the store. -/
theorem Steady.performs (h : script.Steady) (request : Cluster.Request) :
    (script.reply 0).performs request := by
  unfold Steady at h
  simp [reply, ClusterReply.nth, h, ClusterReply.performs]

/-- Under a faultless script no call meets a fault. -/
theorem Faultless.is_fault (h : script.Faultless) (n : Nat) : (script.reply n).isFault = false := by
  rw [reply, ClusterReply.nth, List.getD_eq_getElem?_getD]
  cases hreply : script.clusterReplies[n]? with
  | none => rfl
  | some reply => exact h reply (List.mem_of_getElem? hreply)

/-- A faultless script stays faultless. -/
theorem Faultless.noted (h : script.Faultless) : (script.noted request store).Faultless :=
  fun reply hreply => h reply (List.mem_of_mem_tail hreply)

/-- Under a faultless script every call but a count is carried out by the store. -/
theorem Faultless.performs (h : script.Faultless)
    (hrequest : ∀ nodeId, request ≠ .countNodes nodeId) : (script.reply 0).performs request :=
  ClusterReply.performs_of_fault (h.is_fault 0) hrequest

/-- Answering a call to the cluster uses up one reply and notes the call down. -/
theorem answer_cluster (script : Script) (request : Cluster.Request) :
    script.answer (.cluster request) =
      ((clusterOutcome (script.reply 0) script.store request).1,
        script.noted request (clusterOutcome (script.reply 0) script.store request).2) := by
  unfold answer reply ClusterReply.nth noted
  cases script.clusterReplies <;> rfl

/-- Whatever is answered, the replies of the cluster to come are among those that were to come. -/
theorem cluster_replies_answer (script : Script) (call : Call) :
    (script.answer call).2.clusterReplies ⊆ script.clusterReplies := by
  cases call with
  | cluster request =>
      rw [answer_cluster]
      exact (List.tail_sublist _).subset
  | _ => exact List.Subset.refl _

/-- Whatever is run, a faultless script stays faultless. -/
theorem Faultless.run {α : Type} (h : script.Faultless) (operation : String)
    (program : Program α) : (program.run world operation script).2.Faultless :=
  Program.run_keeps world operation
    (fun state call _ hstate reply hreply =>
      hstate reply (cluster_replies_answer state call hreply)) program.only_any h

variable {α : Type} {operation : String} {next : (Call.cluster request).Answer → Program α}

/-- A call that meets a fault ends the program and leaves the store as it was. -/
theorem advance_fault {error : Error} (h : (script.reply 0).fault? operation = some error) :
    Program.advance world operation (.cluster request) (.onAnswer _ next) script =
      (.done (.error error), script.noted request script.store) := by
  simp only [Program.advance, world, answer_cluster]
  cases hreply : script.reply 0 with
  | perform => simp [hreply, ClusterReply.fault?] at h
  | count machines => simp [hreply, ClusterReply.fault?] at h
  | fail failure =>
      obtain rfl : failure = error := by simpa [hreply, ClusterReply.fault?] using h
      rfl
  | hang =>
      obtain rfl : Error.deadlineExceeded (.operation operation) = error := by
        simpa [hreply, ClusterReply.fault?] using h
      rfl

/-- Without a count of the script's own, a request ends as the store has it. -/
theorem cluster_outcome_perform (store : Cluster.Store) :
    clusterOutcome .perform store request =
      match store.perform request with
      | (.ok answer, after) => (.answered answer, after)
      | (.error error, after) => (.failed error, after) := by
  have hmachines := store.machines_perform request
  simp only [clusterOutcome]
  cases hperform : store.perform request with
  | mk result after =>
      cases result with
      | ok answer =>
          rw [hperform] at hmachines
          simp only [← hmachines]
      | error error =>
          have hsame := store.perform_of_error (congrArg Prod.fst hperform)
          rw [hperform] at hsame
          obtain rfl : after = store := hsame
          rfl

/-- A count of the script's own matters to nothing but a count of machines. -/
theorem cluster_outcome_count {machines : Nat} (store : Cluster.Store)
    (h : (ClusterReply.count machines).performs request) :
    clusterOutcome (.count machines) store request = clusterOutcome .perform store request := by
  cases request with
  | countNodes nodeId => simp [ClusterReply.performs] at h
  -- The two stores differ in the machines that there are, which these requests do not read.
  | createDeployment deployment =>
      simp only [clusterOutcome, Cluster.Store.perform, Cluster.Store.deployment?]
      cases Cluster.Store.lookup (Cluster.Store.nameOf deployment.metadata) store.deployments <;>
        rfl
  | scaleDeployment name replicas =>
      simp only [clusterOutcome, Cluster.Store.perform, Cluster.Store.deployment?]
      cases Cluster.Store.lookup name store.deployments <;> rfl
  | _ => rfl

/-- A call that meets no fault goes as the store has it. -/
theorem advance_performed (h : (script.reply 0).performs request) :
    Program.advance world operation (.cluster request) (.onAnswer _ next) script =
      match script.store.perform request with
      | (.ok answer, after) => (next answer, script.noted request after)
      | (.error error, after) => (.done (.error error), script.noted request after) := by
  have houtcome : clusterOutcome (script.reply 0) script.store request =
      clusterOutcome .perform script.store request := by
    cases hreply : script.reply 0 with
    | perform => rfl
    | count machines => exact cluster_outcome_count _ (hreply ▸ h)
    | fail error => simp [hreply, ClusterReply.performs] at h
    | hang => simp [hreply, ClusterReply.performs] at h
  simp only [Program.advance, world, answer_cluster, houtcome, cluster_outcome_perform]
  cases script.store.perform request with
  | mk result after => cases result <;> rfl

/-- A run whose next call meets a fault is over, and the store is as it was. -/
theorem run_fault (h : (script.reply 0).isFault) :
    ∃ error, (Program.proceed (.cluster request) next).run world operation script =
      (.error error, script.noted request script.store) := by
  rw [ClusterReply.is_fault_eq operation] at h
  obtain ⟨error, herror⟩ := Option.isSome_iff_exists.1 h
  refine ⟨error, ?_⟩
  rw [Program.proceed, Program.run_call, advance_fault herror]
  rfl

/-- A run whose next call meets no fault goes on as the store has it. -/
theorem run_performed (h : (script.reply 0).performs request) :
    (Program.proceed (.cluster request) next).run world operation script =
      match script.store.perform request with
      | (.ok answer, after) => (next answer).run world operation (script.noted request after)
      | (.error error, after) => (.error error, script.noted request after) := by
  rw [Program.proceed, Program.run_call, advance_performed h]
  cases script.store.perform request with
  | mk result after => cases result <;> rfl

/-- A run that scales a deployment which is there goes on with it scaled. -/
theorem run_scale {program : Program α} {name : String} {count : Int}
    {current : Cluster.Deployment} (h : (script.reply 0).performs (.scaleDeployment name count))
    (hfound : script.store.deployment? name = some current) :
    (Program.proceed (.cluster (.scaleDeployment name count)) fun _ => program).run world operation
        script =
      program.run world operation (script.noted (.scaleDeployment name count)
        (script.store.putDeployment name (current.scaled count))) := by
  rw [run_performed h, Cluster.Store.perform_scale hfound]

end Script

/-- Some calls have changed no deployment but the one of a name, and not the machines that there
are. -/
structure Confined (name : String) (before after : Script) : Prop where
  others : ∀ other, other ≠ name → after.store.deployment? other = before.store.deployment? other
  machines : after.store.machines = before.store.machines
  steady : before.Steady → after.Steady

namespace Confined

variable {name : String} {before between after script : Script}

/-- No call changes nothing. -/
theorem refl (script : Script) : Confined name script script :=
  ⟨fun _ _ => rfl, rfl, id⟩

/-- Calls after calls change no more than both. -/
theorem trans (hfirst : Confined name before between) (hsecond : Confined name between after) :
    Confined name before after where
  others := fun other hother => (hsecond.others other hother).trans (hfirst.others other hother)
  machines := hsecond.machines.trans hfirst.machines
  steady := fun hsteady => hsecond.steady (hfirst.steady hsteady)

variable (request : Cluster.Request)

/-- A call that changes nothing. -/
theorem same : Confined name script (script.noted request script.store) :=
  ⟨fun _ _ => rfl, rfl, fun h => h.noted⟩

/-- A call that puts a deployment in. -/
theorem put (deployment : Cluster.Deployment) :
    Confined name script (script.noted request (script.store.putDeployment name deployment)) where
  others := fun other hother => by simp [hother]
  machines := rfl
  steady := fun h => h.noted

/-- A call that takes the deployment out. -/
theorem drop :
    Confined name script (script.noted request (script.store.dropDeployment name)) where
  others := fun other hother => by simp [hother]
  machines := rfl
  steady := fun h => h.noted

/-- A call that takes a network policy out. -/
theorem drop_policy (policy : String) :
    Confined name script (script.noted request (script.store.dropPolicy policy)) :=
  ⟨fun _ _ => rfl, rfl, fun h => h.noted⟩

end Confined

end EdgeFleet
