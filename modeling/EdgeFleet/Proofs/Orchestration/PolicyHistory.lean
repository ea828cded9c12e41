import EdgeFleet.Proofs.Cluster.Naming
import EdgeFleet.Proofs.Orchestration.PolicyChange

/-!
# Network policies follow what was asked for

Over a cluster whose calls do not fail, the network policies that it keeps can be read off the
history of jobs. `network_policies_follow` is the main result: a workload has a network policy on a
node exactly if the last job about its policy there that ended well was one that set it, and then it
is the translation of what was set. It rests on `policy_change`, which says what a single job does.
-/

namespace EdgeFleet

/-- A job that was asked for on a node, and how it ended. -/
structure Event where
  nodeId : String
  job : Job
  result : Except Error Unit

namespace Event

/-- Whether an event settles the policy of a workload on a node: it is about that policy, and it
ended well. -/
def settles (event : Event) (nodeId id : String) : Bool :=
  event.nodeId == nodeId && event.job.policyOn? == some id && event.result.isOk

/-- The last job of a history that settled the policy of a workload on a node. -/
def last? (history : List Event) (nodeId id : String) : Option Job :=
  (history.filter (·.settles nodeId id)).getLast?.map (·.job)

/-- The last job of a longer history is the one at its end, if that settles the policy. -/
theorem last_concat (history : List Event) (event : Event) (nodeId id : String) :
    last? (history ++ [event]) nodeId id =
      if event.settles nodeId id then some event.job else last? history nodeId id := by
  rw [last?, List.filter_append]
  cases hsettles : event.settles nodeId id with
  | true => simp [hsettles]
  | false => simp [hsettles, last?]

end Event

/-- Carries jobs on nodes out one after another in a scripted world, and records how they end. -/
def Controller.performAll (controller : Controller) :
    List (String × Job) → Script → List Event × Script
  | [], script => ([], script)
  | (nodeId, job) :: rest, script =>
    let (result, next) := (controller.perform nodeId job).run Script.world script
    let (events, last) := controller.performAll rest next
    (⟨nodeId, job, result⟩ :: events, last)

/-- Nodes can be told apart by their serial numbers. -/
def Directory.Distinct (directory : Directory) : Prop :=
  ∀ first second node other, directory.node first = .ok (some node) →
    directory.node second = .ok (some other) → node.serial = other.serial → first = second

namespace Cluster.Placing

/-- A network policy that bears the name for the policy of a workload on a node of a serial number,
in the namespace for workloads, and selects the pods of this workload there. -/
structure BelongsTo (placing : Placing) (workload serial : String) (object : NetworkPolicy) :
    Prop where
  name : object.metadata.name = some (networkPolicyName workload serial)
  namespaceName : object.metadata.namespaceName = some placing.namespaceName
  labels : object.metadata.labels = some [(podLabel, appLabel workload serial)]
  pods : object.spec.map (·.pods) = some ⟨some [(podLabel, appLabel workload serial)]⟩

/-- What a cluster keeps as the policy of a workload on a node of a serial number after the last job
that settled it: nothing, or the translation of what that job set. -/
def Follows (placing : Placing) (workload serial : String) (last : Option Job)
    (kept : Option NetworkPolicy) : Prop :=
  match last.bind Job.given? with
  | none => kept = none
  | some payload => ∃ policy object, payload = .cluster policy ∧
      NetworkPolicy.ofPolicy policy (networkPolicyName workload serial) placing.namespaceName
        [(podLabel, appLabel workload serial)] = .ok object ∧
      placing.BelongsTo workload serial object ∧ kept = some object

/-- What was translated for a job that sets a policy follows this job. -/
theorem follows_of_policy_for {placing : Placing} {workload serial : String} {job : Job}
    {payload : PolicyPayload} {object : NetworkPolicy} (hgiven : job.given? = some payload)
    (hobject : placing.policyFor workload serial payload = .ok object) :
    placing.Follows workload serial (some job) (some object) := by
  obtain ⟨hmetadata, hpods⟩ := policy_for_spec hobject
  have hbelongs : placing.BelongsTo workload serial object :=
    ⟨by rw [hmetadata], by rw [hmetadata], by rw [hmetadata], hpods⟩
  rw [Follows, Option.bind_some, hgiven]
  cases payload with
  | native policy => cases hobject
  | cluster policy => exact ⟨policy, object, rfl, hobject, hbelongs, rfl⟩

/-- The network policies of a cluster follow a history if every workload has on every node what the
last job has left. -/
def Reflects (placing : Placing) (history : List Event) (store : Store) : Prop :=
  ∀ nodeId node id, placing.directory.node nodeId = .ok (some node) → Uuid.isValid id →
    placing.Follows id node.serial (Event.last? history nodeId id)
      (store.policy? (networkPolicyName id node.serial))

variable {placing : Placing} {history : List Event} {before after : Store} {nodeId : String}
  {job : Job} {result : Except Error Unit}

/-- Policies that follow a history follow it with one more job. -/
theorem Reflects.concat (h : placing.Reflects history before)
    (hdistinct : placing.directory.Distinct)
    (hvalid : ∀ id, job.policyOn? = some id → Uuid.isValid id)
    (hchange : PolicyChange placing nodeId job before after result) :
    placing.Reflects (history ++ [⟨nodeId, job, result⟩]) after := by
  intro otherId other id hother hid
  have hbefore := h otherId other id hother hid
  rw [Event.last_concat]
  -- A name is that of the job's policy only for the workload and the node of the job.
  have hname : ∀ {node : Node} {workload : String},
      placing.directory.node nodeId = .ok (some node) → job.policyOn? = some workload →
        (networkPolicyName id other.serial = networkPolicyName workload node.serial ↔
          nodeId = otherId ∧ workload = id) := by
    intro node workload hnode hjob
    rw [naming_iff (by simp [namings]) hid (hvalid workload hjob)]
    constructor
    · rintro ⟨rfl, hserial⟩
      exact ⟨hdistinct _ _ _ _ hnode hother hserial.symm, rfl⟩
    · rintro ⟨rfl, rfl⟩
      obtain rfl : other = node := by simpa using hother.symm.trans hnode
      exact ⟨rfl, rfl⟩
  cases hchange with
  | other hjob hkept => simpa [Event.settles, hjob, Store.policy?, hkept] using hbefore
  | failed hkept =>
      simpa [Event.settles, Except.isOk, Except.toBool, Store.policy?, hkept] using hbefore
  | @set node workload payload object hnode hjob hgiven hobject hput =>
      simp only [hput, hname hnode hjob, Event.settles, hjob, Except.isOk, Except.toBool,
        Bool.and_true, Bool.and_eq_true, beq_iff_eq, Option.some.injEq]
      by_cases hsame : nodeId = otherId ∧ workload = id
      · obtain ⟨rfl, rfl⟩ := hsame
        obtain rfl : node = other := by simpa using hnode.symm.trans hother
        simpa using follows_of_policy_for hgiven hobject
      · simpa only [hsame, if_false] using hbefore
  | @removed node workload hnode hjob hgiven hgone =>
      simp only [hgone, hname hnode hjob, Event.settles, hjob, Except.isOk, Except.toBool,
        Bool.and_true, Bool.and_eq_true, beq_iff_eq, Option.some.injEq]
      by_cases hsame : nodeId = otherId ∧ workload = id
      · simp [Follows, hsame, hgiven]
      · simpa only [hsame, if_false] using hbefore

end Cluster.Placing

namespace Controller

open Cluster Placing Script

variable {controller : Controller} {placing : Placing}
  (hbackend : controller.backend = placing.backend) (hroute : placing.policies = .networkPolicy)
  (hdistinct : placing.directory.Distinct)
include hbackend hroute hdistinct

/-- Policies that follow a history still follow it after a run of further jobs. -/
theorem reflects_perform_all {tasks : List (String × Job)}
    (hvalid : ∀ task ∈ tasks, ∀ id, task.2.policyOn? = some id → Uuid.isValid id)
    {history : List Event} {script : Script} (hfaultless : script.Faultless)
    (h : placing.Reflects history script.store) :
    placing.Reflects (history ++ (controller.performAll tasks script).1)
      (controller.performAll tasks script).2.store := by
  induction tasks generalizing history script with
  | nil => simpa [performAll] using h
  | cons task rest ih =>
      obtain ⟨nodeId, job⟩ := task
      have hstep := h.concat hdistinct (hvalid (nodeId, job) (by simp))
        (policy_change nodeId hbackend hroute hfaultless job)
      have hnext : ((controller.perform nodeId job).run world script).2.Faultless :=
        hfaultless.run _ _
      have hrest := ih (fun task htask => hvalid task (by simp [htask])) hnext hstep
      simpa [performAll] using hrest

end Controller

open Cluster Script in
/-- In the mode in which policies are network policies, over a cluster whose calls do not fail and
that has none to begin with, and with nodes that can be told apart by their serial numbers: after
every run of jobs, a workload has a network policy on a node exactly if the last job that settled
its policy there was one that set it, and then it is the translation of what was set, for the pods
of the workload. No job changes a network policy otherwise: what it does, it does to the one of the
workload that it is about, and only if it ends well. Removing the policy of a workload on a known
node always ends well. -/
theorem network_policies_follow {settings : Settings} {broker : Broker} {hasCluster : Bool}
    {controller : Controller} (hmode : settings.mode = .kubernetesOvn)
    (hcontroller : Controller.ofSettings settings broker hasCluster = .ok controller)
    (hdistinct : broker.directory.Distinct) :
    (∀ (tasks : List (String × Job)) (script : Script),
      (∀ task ∈ tasks, ∀ id, task.2.policyOn? = some id → Uuid.isValid id) → script.Faultless →
        script.store.policies = [] →
          (Controller.placing settings broker .networkPolicy).Reflects
            (controller.performAll tasks script).1
            (controller.performAll tasks script).2.store) ∧
    (∀ (nodeId : String) (job : Job) (script : Script), script.Faultless →
      let ended := (controller.perform nodeId job).run world script
      ended.2.store.policies = script.store.policies ∨
        ended.1 = .ok () ∧ ∃ node id, broker.directory.node nodeId = .ok (some node) ∧
          job.policyOn? = some id ∧ ∀ name, name ≠ networkPolicyName id node.serial →
            ended.2.store.policy? name = script.store.policy? name) ∧
    ∀ (nodeId : String) (node : Node) (ref : WorkloadRef) (script : Script),
      broker.directory.node nodeId = .ok (some node) → ref.id ≠ "" → script.Faultless →
        ((controller.deletePolicy nodeId ref).run world script).1 = .ok () := by
  have hbackend := Controller.backend_of_ovn_mode hmode hcontroller
  have hroute : (Controller.placing settings broker .networkPolicy).policies = .networkPolicy := rfl
  refine ⟨fun tasks script hvalid hfaultless hnone => ?_, fun nodeId job script hfaultless => ?_,
    fun nodeId node ref script hnode hid hfaultless => ?_⟩
  · have hstart : (Controller.placing settings broker .networkPolicy).Reflects [] script.store := by
      intro nodeId node id _ _
      show script.store.policy? _ = none
      rw [Store.policy?, hnone]
      rfl
    simpa using Controller.reflects_perform_all hbackend hroute hdistinct hvalid hfaultless hstart
  · exact (Controller.policy_change nodeId hbackend hroute hfaultless job).confined
  · have hprogram : (controller.deletePolicy nodeId ref).program = _ :=
      Controller.perform_delete_policy hbackend hroute hnode hid
    rw [Operation.run, hprogram, run_performed (hfaultless.performs (by simp)),
      Store.perform_delete_policy]
    rfl

namespace Sample

/-- Sets and removes policies before, during and after the life of a deployment. The undeploy on the
other node finds no deployment there, and so leaves the policy. -/
def policyTasks : List (String × Job) := [
  (node.id, .setPolicy ref (.cluster coreOnly)),
  (otherNode.id, .setPolicy ref (.cluster coreOnly)),
  (node.id, .action (.deploy (.app app))),
  (otherNode.id, .action (.undeploy ref)),
  (node.id, .deletePolicy ref),
  (node.id, .setPolicy ref (.cluster { coreOnly with egress := [] })),
  (node.id, .action (.undeploy ref)),
  (node.id, .deletePolicy ref)]

/-- The nodes of the fleet have different serial numbers. -/
theorem distinct : broker.directory.Distinct := by
  have hfind : ∀ id found, broker.directory.node id = .ok (some found) →
      found.id = id ∧ found ∈ [node, otherNode] := by
    intro id found h
    obtain hfound : [node, otherNode].find? (·.id == id) = some found := Except.ok.inj h
    exact ⟨by simpa using List.find?_some hfound, List.mem_of_find?_eq_some hfound⟩
  intro first second one other hone hother hserial
  obtain ⟨rfl, honeIn⟩ := hfind first one hone
  obtain ⟨rfl, hotherIn⟩ := hfind second other hother
  have hunique : ∀ one ∈ [node, otherNode], ∀ other ∈ [node, otherNode],
      one.serial = other.serial → one.id = other.id := by decide
  exact hunique one honeIn other hotherIn hserial

end Sample

open Sample in
/-- After some jobs on two nodes, the one on which the policy was last set keeps it. The other one,
on which it was last removed, does not. -/
theorem network_policies_follow_two_nodes :
    let ended := Sample.controller.performAll Sample.policyTasks (Sample.script Sample.bare [])
    (∃ object, ended.2.store.policy? (Cluster.networkPolicyName ref.id otherNode.serial) =
        some object ∧
      Cluster.NetworkPolicy.ofPolicy coreOnly (Cluster.networkPolicyName ref.id otherNode.serial)
        settings.namespaceName
        [(Cluster.podLabel, Cluster.appLabel ref.id otherNode.serial)] = .ok object) ∧
    ended.2.store.policy? (Cluster.networkPolicyName ref.id node.serial) = none := by
  intro ended
  have hvalid : ∀ task ∈ policyTasks, ∀ id, task.2.policyOn? = some id → Uuid.isValid id := by
    have hall : ∀ task ∈ policyTasks, task.2.policyOn?.all Uuid.isValid := by decide +kernel
    intro task htask id hid
    simpa [hid] using hall task htask
  have hreflects := (network_policies_follow rfl of_settings distinct).1 policyTasks
    (Sample.script Sample.bare []) hvalid (by simp [Script.Faultless, script]) rfl
  have hset : Event.last? ended.1 otherNode.id ref.id =
      some (.setPolicy ref (.cluster coreOnly)) := by
    decide +kernel
  have hremoved : Event.last? ended.1 node.id ref.id = some (.deletePolicy ref) := by
    decide +kernel
  have hid : Uuid.isValid ref.id := by decide +kernel
  have hother := hreflects otherNode.id otherNode ref.id (by decide +kernel) hid
  have hnode := hreflects node.id node ref.id node_known hid
  simp only [ended] at hset hremoved
  rw [hset] at hother
  rw [hremoved] at hnode
  obtain ⟨policy, object, hpolicy, hobject, -, hkept⟩ := hother
  obtain rfl : coreOnly = policy := PolicyPayload.cluster.inj hpolicy
  exact ⟨⟨object, hkept, hobject⟩, hnode⟩

end EdgeFleet
