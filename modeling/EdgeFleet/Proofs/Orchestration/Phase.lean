import EdgeFleet.Proofs.Cluster.Naming
import EdgeFleet.Proofs.Orchestration.Action
import Mathlib.Data.Set.Function

/-!
# Phases of workloads

What a controller that keeps workloads in the cluster promises about them, without the cluster. A
workload on a node is absent, stopped or running. `Phase.step` says how every action ends and what
it leads to, and `Fleet.run` carries that to any number of workloads and nodes. `Phase.shown` reads
the phase of a workload off its deployment.
-/

namespace EdgeFleet

/-- What a workload is on a node. -/
inductive Phase where
  | absent
  | stopped
  | running
  deriving Repr, DecidableEq

namespace Phase

/-- How an action on a workload in a phase ends, and the phase that it leads to. -/
def step : Action → Phase → Verdict × Phase
  | .deploy _, .absent => (.ok (some .deployed), .stopped)
  | .deploy _, phase => (.failedPrecondition, phase)
  | _, .absent => (.notFound, .absent)
  | .redeploy _, phase => (.ok none, phase)
  | .command _ .start, .stopped => (.ok (some .running), .running)
  | .command _ .stop, .running => (.ok (some .stopped), .stopped)
  | .command _ .restart, .running => (.ok (some .running), .running)
  | .command _ _, phase => (.failedPrecondition, phase)
  | .undeploy _, _ => (.ok none, .absent)

/-- The phase that a deployment shows: none is absent, no copies are stopped, and one copy is
running. Any other deployment shows no phase. -/
def shown (found : Option Cluster.Deployment) : Option Phase :=
  match found.map Cluster.Deployment.replicas? with
  | none => some .absent
  | some (some (0 : Int)) => some .stopped
  | some (some (1 : Int)) => some .running
  | _ => none

end Phase

/-- An action on a node. -/
structure Task where
  node : Node
  action : Action
  deriving DecidableEq

/-- The phases of all workloads on all nodes. -/
abbrev Fleet := Node → String → Phase

namespace Fleet

/-- The fleet in which nothing is deployed. -/
def empty : Fleet := fun _ _ => .absent

/-- How a task ends, and the fleet after it: only the workload of the task, on its node, changes. -/
def step (fleet : Fleet) (task : Task) : Verdict × Fleet :=
  let (verdict, phase) := (fleet task.node task.action.workloadId).step task.action
  (verdict, fun node id =>
    if node = task.node ∧ id = task.action.workloadId then phase else fleet node id)

/-- How tasks end that are done one after another, and the fleet after them. -/
def run (fleet : Fleet) : List Task → List Verdict × Fleet
  | [] => ([], fleet)
  | task :: rest =>
    let (verdict, next) := fleet.step task
    let (verdicts, last) := next.run rest
    (verdict :: verdicts, last)

end Fleet

/-- An action on a workload that the cluster can run: what is deployed passes its check, comes in
containers and opens ports of protocols that the cluster knows only. -/
def Action.Suits : Action → Prop
  | .deploy workload | .redeploy workload =>
    workload.check = .ok () ∧ workload.packaging = .container ∧
      ∀ exposed ∈ workload.ports, Cluster.ContainerPort.knows exposed.protocol
  | .command ref _ | .undeploy ref => Uuid.isValid ref.id

instance : DecidablePred Action.Suits
  | .deploy _ | .redeploy _ => inferInstanceAs (Decidable (_ ∧ _ ∧ _))
  | .command _ _ | .undeploy _ => inferInstanceAs (Decidable (_ = true))

/-- An action that suits is about a workload with a UUID. -/
theorem Action.Suits.valid {action : Action} (h : action.Suits) :
    Uuid.isValid action.workloadId := by
  cases action with
  | deploy workload => exact Workload.valid_of_check h.1
  | redeploy workload => exact Workload.valid_of_check h.1
  | command ref command => exact h
  | undeploy ref => exact h

namespace Phase

variable {found : Option Cluster.Deployment}

/-- What is absent has no deployment. -/
theorem shown_absent : shown found = some .absent ↔ found = none := by
  cases found with
  | none => simp [shown]
  | some deployment =>
      simp only [shown, Option.map_some]
      split <;> simp_all

/-- What is stopped has a deployment without copies. -/
theorem shown_stopped : shown found = some .stopped ↔
    ∃ deployment, found = some deployment ∧ deployment.replicas? = some 0 := by
  cases found with
  | none => simp [shown]
  | some deployment =>
      simp only [shown, Option.map_some]
      split <;> simp_all

/-- What is running has a deployment with one copy. -/
theorem shown_running : shown found = some .running ↔
    ∃ deployment, found = some deployment ∧ deployment.replicas? = some 1 := by
  cases found with
  | none => simp [shown]
  | some deployment =>
      simp only [shown, Option.map_some]
      split <;> simp_all

variable {deployment current : Cluster.Deployment} {phase : Phase}

/-- What phase a deployment shows depends on nothing but the number of copies. -/
theorem shown_congr (h : deployment.replicas? = current.replicas?) :
    shown (some deployment) = shown (some current) := by
  simp only [shown, Option.map_some, h]

/-- A deployment that shows a phase says how many copies it asks for. -/
theorem replicas_of_shown (h : shown (some current) = some phase) :
    current.replicas? = some current.replicas := by
  cases hreplicas : current.replicas? with
  | none => simp [shown, hreplicas] at h
  | some count => simp [Cluster.Deployment.replicas, hreplicas]

end Phase

/-- Nodes that a directory knows, no two of them with the same serial number. -/
structure Roster (directory : Directory) where
  nodes : Set Node
  known : ∀ node ∈ nodes, directory.node node.id = .ok (some node)
  distinct : Set.InjOn Node.serial nodes

/-- A cluster shows a fleet if the deployment of every workload on every node shows its phase. -/
def Roster.Shows {directory : Directory} (roster : Roster directory) (store : Cluster.Store)
    (fleet : Fleet) : Prop :=
  ∀ node ∈ roster.nodes, ∀ id, Uuid.isValid id →
    Phase.shown (store.deployment? (Cluster.deploymentName id node.serial)) = some (fleet node id)

/-- Two workloads on nodes of a roster with the same deployment are the same on the same node. -/
theorem Roster.task_of_name {directory : Directory} (roster : Roster directory) {node other : Node}
    {id otherId : String} (hnode : node ∈ roster.nodes) (hother : other ∈ roster.nodes)
    (hid : Uuid.isValid id) (hotherId : Uuid.isValid otherId)
    (h : Cluster.deploymentName id node.serial = Cluster.deploymentName otherId other.serial) :
    node = other ∧ id = otherId := by
  obtain ⟨hsame, hserial⟩ := Cluster.deployment_name_injective hid hotherId h
  exact ⟨roster.distinct hnode hother hserial, hsame⟩

end EdgeFleet
