import EdgeFleet.Proofs.Orchestration.Calls
import EdgeFleet.Proofs.Orchestration.Script
import Mathlib.Data.Set.Basic

/-!
# The objects that an operation is about

Which objects of the cluster the calls of an operation read or change. `Controller.perform_touches`
is the main result: a job on a node makes no call about any object but those that `Job.objects`
lists, which are named after the workload of the job and the serial number of the node. Read
`Program.Touches.agrees` next: whatever a program does not touch is the same after it.
-/

namespace EdgeFleet

namespace Cluster

/-- An object of the cluster, by its kind and its name. -/
inductive ObjectKey where
  | deployment (name : String)
  | policy (name : String)
  deriving DecidableEq

/-- The object that a request reads or changes. Counting machines is about none. -/
def Request.key? : Request → Option ObjectKey
  | .countNodes _ => none
  | .createDeployment deployment | .applyDeployment deployment =>
    some (.deployment (Store.nameOf deployment.metadata))
  | .getDeployment name | .scaleDeployment name _ | .deleteDeployment name =>
    some (.deployment name)
  | .applyNetworkPolicy policy => some (.policy (Store.nameOf policy.metadata))
  | .deleteNetworkPolicy name => some (.policy name)

namespace Store

/-- Two clusters keep the same under a key. -/
def AgreesAt (first second : Store) : ObjectKey → Prop
  | .deployment name => first.deployment? name = second.deployment? name
  | .policy name => first.policy? name = second.policy? name

variable {first second third store : Store} {key : ObjectKey}

/-- A cluster agrees with itself. -/
theorem AgreesAt.refl (store : Store) (key : ObjectKey) : store.AgreesAt store key := by
  cases key <;> rfl

/-- Agreement goes from cluster to cluster. -/
theorem AgreesAt.trans (hfirst : first.AgreesAt second key) (hsecond : second.AgreesAt third key) :
    first.AgreesAt third key := by
  cases key with
  | deployment name => exact Eq.trans hfirst hsecond
  | policy name => exact Eq.trans hfirst hsecond

/-- Putting a deployment in changes nothing under any other key. -/
theorem agrees_put_deployment {name : String} (deployment : Deployment)
    (h : key ≠ .deployment name) : (store.putDeployment name deployment).AgreesAt store key := by
  cases key with
  | deployment other =>
      have hname : other ≠ name := fun heq => h (congrArg ObjectKey.deployment heq)
      show (store.putDeployment name deployment).deployment? other = store.deployment? other
      rw [deployment_put_deployment, if_neg hname]
  | policy other => rfl

/-- Carrying a request out changes nothing but the object that the request is about. -/
theorem agrees_perform (store : Store) {request : Request} (h : request.key? ≠ some key) :
    (store.perform request).2.AgreesAt store key := by
  have hkey : ∀ {name}, request.key? = some (.deployment name) → key ≠ .deployment name := by
    intro name hname heq
    exact h (hname.trans (congrArg some heq.symm))
  cases request with
  | countNodes nodeId => exact .refl store key
  | getDeployment name => exact .refl store key
  | createDeployment deployment =>
      simp only [perform]
      split
      · exact .refl store key
      · exact agrees_put_deployment deployment (hkey rfl)
  | applyDeployment deployment => exact agrees_put_deployment deployment (hkey rfl)
  | scaleDeployment name replicas =>
      simp only [perform]
      split
      · exact agrees_put_deployment _ (hkey rfl)
      · exact .refl store key
  | deleteDeployment name =>
      cases key with
      | deployment other =>
          have hname : other ≠ name := fun heq => hkey rfl (congrArg ObjectKey.deployment heq)
          show (store.dropDeployment name).deployment? other = store.deployment? other
          rw [deployment_drop_deployment, if_neg hname]
      | policy other => rfl
  | applyNetworkPolicy policy =>
      cases key with
      | deployment other => rfl
      | policy other =>
          have hname : other ≠ nameOf policy.metadata := by
            rintro rfl
            exact h rfl
          show (store.putPolicy _ policy).policy? other = store.policy? other
          rw [policy_put_policy, if_neg hname]
  | deleteNetworkPolicy name =>
      cases key with
      | deployment other => rfl
      | policy other =>
          have hname : other ≠ name := by
            rintro rfl
            exact h rfl
          show (store.dropPolicy name).policy? other = store.policy? other
          rw [policy_drop_policy, if_neg hname]

end Store

end Cluster

namespace Script

open Cluster

/-- What a call to the cluster leaves behind: what was there, or, if the call is answered, what the
store makes of the request. -/
theorem cluster_outcome_cases (reply : ClusterReply) (store : Store) (request : Request) :
    (clusterOutcome reply store request).2 = store ∨
      (∃ answer, (clusterOutcome reply store request).1 = .answered answer) ∧
        (clusterOutcome reply store request).2 = (store.perform request).2 := by
  have hperform : (clusterOutcome .perform store request).2 = store ∨
      (∃ answer, (clusterOutcome .perform store request).1 = .answered answer) ∧
        (clusterOutcome .perform store request).2 = (store.perform request).2 := by
    rw [cluster_outcome_perform]
    cases hresult : store.perform request with
    | mk result after =>
        cases result with
        | ok answer => exact .inr ⟨⟨answer, rfl⟩, rfl⟩
        | error error =>
            have hsame := store.perform_of_error (congrArg Prod.fst hresult)
            rw [hresult] at hsame
            exact .inl hsame
  cases reply with
  | perform => exact hperform
  | fail error => exact .inl rfl
  | hang => exact .inl rfl
  | count machines =>
      cases hcount : (ClusterReply.count machines).performs request with
      | true =>
          rw [cluster_outcome_count store hcount]
          exact hperform
      | false =>
          -- Only a count of machines is answered by the script itself.
          cases request with
          | countNodes nodeId => exact .inl rfl
          | _ => cases hcount

/-- A call changes nothing in the cluster but the object that it is about. -/
theorem agrees_answer (script : Script) {call : Call} {key : ObjectKey}
    (h : ∀ request, call = .cluster request → request.key? ≠ some key) :
    (script.answer call).2.store.AgreesAt script.store key := by
  cases call with
  | cluster request =>
      rw [answer_cluster, store_noted]
      rcases cluster_outcome_cases (script.reply 0) script.store request with hsame | ⟨-, hstore⟩
      · rw [hsame]
        exact .refl _ key
      · rw [hstore]
        exact script.store.agrees_perform (h request rfl)
  | _ => exact .refl _ key

end Script

namespace Program

open Cluster

variable {α β : Type} {keys larger : Set ObjectKey}

/-- A program touches some objects if all its calls to the cluster are about one of them or about
none, whatever the calls before are answered with. -/
def Touches (keys : Set ObjectKey) (program : Program α) : Prop :=
  program.Only fun call => ∀ request key, call = .cluster request → request.key? = some key →
    key ∈ keys

/-- A program touches all the more objects. -/
theorem Touches.mono (hkeys : keys ⊆ larger) {program : Program α} (h : program.Touches keys) :
    program.Touches larger :=
  Only.mono (fun _ hcall request key heq hkey => hkeys (hcall request key heq hkey)) h

/-- Whatever a program does not touch is in the end what it was. -/
theorem Touches.agrees {program : Program α} (h : program.Touches keys) (operation : String)
    (script : Script) {key : ObjectKey} (hkey : key ∉ keys) :
    (program.run Script.world operation script).2.store.AgreesAt script.store key := by
  let holds (state : Script) : Prop := state.store.AgreesAt script.store key
  have hkeeps (state : Script) (call : Call)
      (hallowed : ∀ request key, call = .cluster request → request.key? = some key → key ∈ keys)
      (hstate : holds state) : holds (Script.world.answer state call).2 := by
    refine (state.agrees_answer fun request heq hrequest => ?_).trans hstate
    exact hkey (hallowed request key heq hrequest)
  exact run_keeps Script.world operation hkeeps h (.refl _ key)

end Program

/-- Whether a call is about one of some objects, or about none. -/
def Call.Touches (keys : Set Cluster.ObjectKey) (call : Call) : Prop :=
  ∀ request key, call = .cluster request → request.key? = some key → key ∈ keys

namespace Call

open Cluster

variable {keys larger : Set ObjectKey} {call : Call}

theorem Touches.mono (h : call.Touches keys) (hkeys : keys ⊆ larger) : call.Touches larger :=
  fun request key heq hkey => hkeys (h request key heq hkey)

/-- A request touches the object that it is about. -/
theorem touches_cluster {request : Request} {key : ObjectKey} (hrequest : request.key? = some key)
    (hkey : key ∈ keys) : (Call.cluster request).Touches keys := by
  intro other otherKey heq hother
  cases heq
  cases hrequest.symm.trans hother
  exact hkey

/-- A call that does not go to the cluster touches nothing. -/
theorem touches_elsewhere (h : ∀ request, call ≠ .cluster request) : call.Touches keys :=
  fun request _ heq => absurd heq (h request)

end Call

/-- No object is touched by what a node is told. -/
theorem Broker.Tells.touches {keys : Set Cluster.ObjectKey} {broker : Broker} {nodeId : String}
    {request : Agent.Request} {call : Call} (h : broker.Tells nodeId request call) :
    call.Touches keys := by
  cases h <;> exact Call.touches_elsewhere (by simp)

namespace Cluster.Placing

variable (placing : Placing) (nodeId : String)

/-- The deployment of a workload on a node, if the node is known. -/
def deploymentsOf (id : String) : Set ObjectKey :=
  {key | ∃ node, placing.directory.node nodeId = .ok (some node) ∧
    key = .deployment (deploymentName id node.serial)}

/-- The network policy of a workload on a node, if the node is known. -/
def policiesOf (id : String) : Set ObjectKey :=
  {key | ∃ node, placing.directory.node nodeId = .ok (some node) ∧
    key = .policy (networkPolicyName id node.serial)}

variable {placing nodeId} {serial : String}

/-- The node whose serial number was found. -/
theorem node_of_serial (h : placing.serial nodeId = .ok serial) :
    ∃ node, placing.directory.node nodeId = .ok (some node) ∧ serial = node.serial := by
  rcases placing.serial_cases nodeId with ⟨error, herror⟩ | ⟨node, hnode, hserial⟩
  · cases h.symm.trans herror
  · exact ⟨node, hnode, Except.ok.inj (h.symm.trans hserial)⟩

/-- The deployment under the name for the serial number found. -/
theorem deployment_mem (h : placing.serial nodeId = .ok serial) (id : String) :
    .deployment (deploymentName id serial) ∈ placing.deploymentsOf nodeId id := by
  obtain ⟨node, hnode, rfl⟩ := node_of_serial h
  exact ⟨node, hnode, rfl⟩

/-- The network policy under the name for the serial number found. -/
theorem policy_mem (h : placing.serial nodeId = .ok serial) (id : String) :
    .policy (networkPolicyName id serial) ∈ placing.policiesOf nodeId id := by
  obtain ⟨node, hnode, rfl⟩ := node_of_serial h
  exact ⟨node, hnode, rfl⟩

end Cluster.Placing

/-- The workload that a job is about. -/
def Job.workloadId? : Job → Option String
  | .action given => some given.workloadId
  | .status ref | .setPolicy ref _ | .deletePolicy ref => some ref.id
  | _ => none

/-- The objects of the cluster that a job on a node is about. -/
def Job.objects (placing : Cluster.Placing) (nodeId : String) : Job → Set Cluster.ObjectKey
  | .action (.deploy workload) | .action (.redeploy workload) =>
    placing.deploymentsOf nodeId workload.id
  | .action (.command ref _) | .status ref => placing.deploymentsOf nodeId ref.id
  | .action (.undeploy ref) =>
    placing.deploymentsOf nodeId ref.id ∪ placing.policiesOf nodeId ref.id
  | .setPolicy ref _ | .deletePolicy ref => placing.policiesOf nodeId ref.id
  | _ => ∅

/-- The objects that a job is about are the deployment and the network policy of its workload. -/
theorem Job.objects_subset (placing : Cluster.Placing) (nodeId : String) {job : Job} {id : String}
    (h : job.workloadId? = some id) :
    job.objects placing nodeId ⊆ placing.deploymentsOf nodeId id ∪ placing.policiesOf nodeId id := by
  cases job with
  | action action =>
      obtain rfl : action.workloadId = id := Option.some.inj h
      cases action with
      | undeploy ref => exact subset_rfl
      | _ => exact Set.subset_union_left
  | status ref =>
      obtain rfl : ref.id = id := Option.some.inj h
      exact Set.subset_union_left
  | setPolicy ref payload =>
      obtain rfl : ref.id = id := Option.some.inj h
      exact Set.subset_union_right
  | deletePolicy ref =>
      obtain rfl : ref.id = id := Option.some.inj h
      exact Set.subset_union_right
  | _ => cases h

namespace Cluster.Placing

variable {placing : Placing} {nodeId : String} {job : Job} {call : Call}

/-- What is built for a workload on a node is its deployment there. -/
theorem Builds.deployment_mem {workload : Workload} {count : Int} {deployment : Deployment}
    (h : placing.Builds nodeId workload count deployment) :
    .deployment (Store.nameOf deployment.metadata) ∈ placing.deploymentsOf nodeId workload.id := by
  obtain ⟨serial, hserial, hbuild⟩ := h
  rw [(Deployment.of_workload_spec hbuild).1]
  exact Placing.deployment_mem hserial workload.id

/-- The calls that are made for a job touch nothing but the objects of the job. -/
theorem Makes.touches (h : placing.Makes nodeId job call) :
    call.Touches (job.objects placing nodeId) := by
  induction h with
  | count workload =>
      intro request key heq hkey
      cases heq
      cases hkey
  | create hbuilds | apply hbuilds => exact Call.touches_cluster rfl hbuilds.deployment_mem
  | fetchToRedeploy hserial | fetchToCommand hserial | fetchStatus hserial | scale hserial _ =>
      exact Call.touches_cluster rfl (deployment_mem hserial _)
  | delete hserial => exact Call.touches_cluster rfl (.inl (deployment_mem hserial _))
  | clear _ ih => exact ih.mono Set.subset_union_right
  | applyPolicy _ hserial hbuilt =>
      refine Call.touches_cluster rfl ?_
      rw [(policy_for_spec hbuilt).1]
      exact policy_mem hserial _
  | deletePolicy _ hserial => exact Call.touches_cluster rfl (policy_mem hserial _)
  | setOnNode _ h | deleteOnNode _ h =>
      obtain ⟨request, -, hcall⟩ := h
      exact hcall.touches

end Cluster.Placing

/-- A job on a node makes no call about any object but its own. -/
theorem Controller.perform_touches {controller : Controller} {placing : Cluster.Placing}
    (hbackend : controller.backend = placing.backend) (nodeId : String) (job : Job) :
    (controller.perform nodeId job).program.Touches (job.objects placing nodeId) := by
  have hmakes := hbackend ▸ placing.backend_only nodeId
  refine controller.perform_only (hmakes.mono fun _ _ h => h.touches) (fun h => ?_) job
  cases h with
  | register _ | connect _ => exact Call.touches_elsewhere (by simp)
  | tell _ hcall => exact hcall.touches

end EdgeFleet
