import EdgeFleet.Proofs.Cluster.Naming
import EdgeFleet.Proofs.Orchestration.PolicyChange

/-!
# Who is selected by whom

A network policy and a deployment both select pods by labels, and the two are built apart from each
other. `selection_exact` is the main result: what is set as the policy of a workload on a node
selects the pods of that workload on that node and of no other, and every deployment selects its own
pods. It rests on `naming_iff`, by which names and labels tell workloads and nodes apart.
-/

namespace EdgeFleet

namespace Cluster

/-- The labels that the pods of a deployment carry. -/
def Deployment.podLabels (deployment : Deployment) : Labels :=
  (deployment.spec.bind fun spec => spec.template.metadata.bind (·.labels)).getD []

/-- Whether a deployment takes the pods that it makes for its own. -/
def Deployment.selectsOwn (deployment : Deployment) : Bool :=
  deployment.spec.any (·.selector.selects deployment.podLabels)

/-- Whether a network policy applies to the pods of a deployment. -/
def NetworkPolicy.selects (policy : NetworkPolicy) (deployment : Deployment) : Bool :=
  policy.spec.any (·.pods.selects deployment.podLabels)

/-- Whoever asks for just the labels that are there selects them. -/
theorem LabelSelector.selects_self (labels : Labels) : selects ⟨some labels⟩ labels := by
  simp [selects]

namespace Deployment

variable {namespaceName pullPolicy nodeId serial : String} {workload : Workload} {count : Int}
  {deployment : Deployment}

/-- A deployment that is built for a workload labels its pods, and asks for all of these labels. -/
theorem of_workload_labels
    (h : ofWorkload namespaceName pullPolicy nodeId serial workload count = .ok deployment) :
    deployment.podLabels = labels nodeId serial workload.id ∧
      deployment.spec.map (·.selector) = some ⟨some (labels nodeId serial workload.id)⟩ := by
  obtain ⟨-, ports, -, rfl⟩ := of_workload_iff.1 h
  exact ⟨rfl, rfl⟩

/-- It selects its own pods. -/
theorem selects_own_of_workload
    (h : ofWorkload namespaceName pullPolicy nodeId serial workload count = .ok deployment) :
    deployment.selectsOwn := by
  obtain ⟨hlabels, hselector⟩ := of_workload_labels h
  obtain ⟨spec, hspec, hspecSelector⟩ := Option.map_eq_some_iff.1 hselector
  rw [selectsOwn, hspec, Option.any_some, hspecSelector, hlabels]
  exact LabelSelector.selects_self _

end Deployment

/-- Only the label that selects pods is looked at in a selection by it. -/
theorem selects_labels_iff (nodeId serial workload value : String) :
    LabelSelector.selects ⟨some [(podLabel, value)]⟩ (Deployment.labels nodeId serial workload) ↔
      value = appLabel workload serial := by
  have hworkload : podLabel ≠ workloadLabel := by decide
  have hnode : podLabel ≠ nodeLabel := by decide
  simp [LabelSelector.selects, Deployment.labels, hworkload, hnode]

/-- What is built for the policy of a workload selects the pods of that workload on that node and no
others. -/
theorem Placing.selects_iff {placing other : Placing} {id nodeId serial otherSerial : String}
    {payload : PolicyPayload} {object : NetworkPolicy} {workload : Workload} {count : Int}
    {deployment : Deployment} (hid : Uuid.isValid id) (hworkload : Uuid.isValid workload.id)
    (hobject : placing.policyFor id serial payload = .ok object)
    (hbuild : other.build nodeId otherSerial workload count = .ok deployment) :
    object.selects deployment ↔ id = workload.id ∧ serial = otherSerial := by
  obtain ⟨-, hpods⟩ := policy_for_spec hobject
  obtain ⟨spec, hspec, hspecPods⟩ := Option.map_eq_some_iff.1 hpods
  obtain ⟨hlabels, -⟩ := Deployment.of_workload_labels hbuild
  rw [NetworkPolicy.selects, hspec, Option.any_some, hspecPods, hlabels, selects_labels_iff,
    naming_iff (by simp [namings]) hid hworkload]

end Cluster

namespace Controller

open Cluster Placing Script

variable {controller : Controller} {placing : Placing} {nodeId : String} {node : Node}
  {ref : WorkloadRef} {script : Script}
  (hbackend : controller.backend = placing.backend) (hroute : placing.policies = .networkPolicy)
  (hnode : placing.directory.node nodeId = .ok (some node)) (hid : ref.id ≠ "")
include hbackend hroute hnode hid

/-- Setting a policy that ends well, whatever the cluster does, leaves its translation in place. -/
theorem set_policy_puts {payload : PolicyPayload}
    (hended : ((controller.setPolicy nodeId ref payload).run world script).1 = .ok ()) :
    ∃ object, placing.policyFor ref.id node.serial payload = .ok object ∧
      ((controller.setPolicy nodeId ref payload).run world script).2.store.policy?
        (networkPolicyName ref.id node.serial) = some object := by
  have hcases := perform_set_policy hbackend hroute hnode hid payload
  simp only [perform] at hcases
  obtain ⟨error, hprogram⟩ | ⟨object, hobject, hprogram⟩ := hcases
  · simp [Operation.run, hprogram] at hended
  · simp only [Operation.run, hprogram] at hended ⊢
    cases hfault : (script.reply 0).isFault with
    | true =>
        obtain ⟨error, hrun⟩ := run_fault hfault
        rw [hrun] at hended
        cases hended
    | false =>
        rw [run_performed (ClusterReply.performs_of_fault hfault (by simp)),
          Store.perform_apply_policy, (policy_for_spec hobject).1, Store.nameOf, Option.getD_some]
        exact ⟨object, hobject, by simp⟩

/-- Setting a policy that passes its check ends well where cluster policies are taken and the
cluster does not fail. -/
theorem set_policy_ends (hmode : controller.mode = .kubernetesOvn) (hfaultless : script.Faultless)
    {policy : ClusterPolicy} (hcheck : policy.check = .ok ()) :
    ((controller.setPolicy nodeId ref (.cluster policy)).run world script).1 = .ok () := by
  have hkind : controller.checkKind (.cluster policy) = .ok () := by
    simp [checkKind, hmode, PolicyPayload.kind, Mode.policyKind]
  obtain ⟨object, hobject⟩ : ∃ object,
      placing.policyFor ref.id node.serial (.cluster policy) = .ok object :=
    NetworkPolicy.of_policy_ok _ _ _ hcheck
  simp only [Operation.run, setPolicy, check_ref_ok hid, hkind, PolicyPayload.check, hcheck,
    hbackend, Placing.backend, set_policy_calls (serial_eq hnode) ref hroute hobject,
    Program.check_ok, Program.monad_lift_eq, Program.done_ok_bind]
  rw [run_performed (hfaultless.performs (by simp)), Store.perform_apply_policy]
  rfl

end Controller

open Cluster Script in
/-- Names and labels are the same only for the same workload and the same serial number. So in the
mode in which policies are network policies, what is left in the cluster when the policy of a
workload on a node is set selects the pods of a deployment exactly if that is a deployment of the
same workload on a node of the same serial number; and setting a policy that passes its check does
end well over a cluster that does not fail. Every deployment selects its own pods. -/
theorem selection_exact {settings : Settings} {broker : Broker} {hasCluster : Bool}
    {controller : Controller} (hmode : settings.mode = .kubernetesOvn)
    (hcontroller : Controller.ofSettings settings broker hasCluster = .ok controller) :
    (∀ naming ∈ namings, ∀ a b s t : String, Uuid.isValid a → Uuid.isValid b →
      (naming a s = naming b t ↔ a = b ∧ s = t)) ∧
    (∀ (nodeId : String) (node : Node) (ref : WorkloadRef) (payload : PolicyPayload)
      (script : Script), broker.directory.node nodeId = .ok (some node) → Uuid.isValid ref.id →
        let ended := (controller.setPolicy nodeId ref payload).run world script
        (script.Faultless → payload.kind = .cluster → payload.check = .ok () →
          ended.1 = .ok ()) ∧
        (ended.1 = .ok () → ∃ object,
          ended.2.store.policy? (networkPolicyName ref.id node.serial) = some object ∧
          ∀ (otherId serial : String) (workload : Workload) (count : Int) (deployment : Deployment),
            Uuid.isValid workload.id →
              (Controller.placing settings broker .networkPolicy).build otherId serial workload
                count = .ok deployment →
                (object.selects deployment ↔ ref.id = workload.id ∧ node.serial = serial))) ∧
    ∀ (namespaceName pullPolicy nodeId serial : String) (workload : Workload) (count : Int)
      (deployment : Deployment),
      Deployment.ofWorkload namespaceName pullPolicy nodeId serial workload count =
        .ok deployment → deployment.selectsOwn := by
  have hbackend := Controller.backend_of_ovn_mode hmode hcontroller
  refine ⟨fun naming hnaming a b s t ha hb => naming_iff hnaming ha hb, ?_,
    fun _ _ _ _ _ _ _ => Deployment.selects_own_of_workload⟩
  intro nodeId node ref payload script hnode hvalid ended
  have hid := Uuid.ne_of_valid hvalid
  constructor
  · intro hfaultless hkind hcheck
    cases payload with
    | native policy => cases hkind
    | cluster policy =>
        exact Controller.set_policy_ends hbackend rfl hnode hid
          ((Controller.mode_of_settings hcontroller).trans hmode) hfaultless hcheck
  · intro hended
    obtain ⟨object, hobject, hkept⟩ :=
      Controller.set_policy_puts hbackend rfl hnode hid hended
    exact ⟨object, hkept, fun otherId serial workload count deployment hworkload hbuild =>
      Placing.selects_iff hvalid hworkload hobject hbuild⟩

open Cluster Sample in
/-- The policy of an application on one node selects its pods there, but not those on a node whose
serial number begins with the one of the first. -/
theorem selection_exact_two_nodes :
    let placing := Controller.placing settings broker .networkPolicy
    ∃ object own other,
      ((controller.setPolicy node.id ref (.cluster coreOnly)).run Script.world
        (Sample.script Sample.bare [])).2.store.policy? (networkPolicyName ref.id node.serial) =
          some object ∧
      placing.build node.id node.serial (.app app) 1 = .ok own ∧
      placing.build otherNode.id otherNode.serial (.app app) 1 = .ok other ∧
      object.selects own = true ∧ object.selects other = false ∧
      own.selectsOwn ∧ other.selectsOwn := by
  intro placing
  have hid : Uuid.isValid ref.id := by decide
  have hpackaging : (Workload.app app).packaging = .container := rfl
  have hports : ∀ exposed ∈ (Workload.app app).ports, ContainerPort.knows exposed.protocol := by
    decide
  obtain ⟨own, hown, -⟩ := placing.build_ok node.id node.serial 1 hpackaging hports
  obtain ⟨other, hother, -⟩ := placing.build_ok otherNode.id otherNode.serial 1 hpackaging hports
  obtain ⟨-, hset, hselects⟩ := selection_exact rfl of_settings
  obtain ⟨hends, hputs⟩ := hset node.id node ref (.cluster coreOnly)
    (Sample.script Sample.bare []) node_known hid
  obtain ⟨object, hkept, hiff⟩ :=
    hputs (hends (by simp [Script.Faultless, Sample.script]) rfl check_core_only)
  refine ⟨object, own, other, hkept, hown, hother, ?_, ?_,
    hselects _ _ _ _ _ _ _ hown, hselects _ _ _ _ _ _ _ hother⟩
  · exact (hiff node.id node.serial (.app app) 1 own hid hown).2 ⟨rfl, rfl⟩
  · rw [Bool.eq_false_iff, Ne, hiff otherNode.id otherNode.serial (.app app) 1 other hid hother]
    decide

end EdgeFleet
