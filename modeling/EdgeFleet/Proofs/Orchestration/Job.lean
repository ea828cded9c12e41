import EdgeFleet.Proofs.Cluster.NetworkPolicy
import EdgeFleet.Proofs.Orchestration.Action

/-!
# Jobs

Everything that can be asked of a controller for a node, as values, so that a theorem can be about
all of it. `Controller.perform` is the operation of a job, which goes by the name `Job.title`.
-/

namespace EdgeFleet

/-- Something that is asked for a node. -/
inductive Job where
  | action (action : Action)
  | status (ref : WorkloadRef)
  | setPolicy (ref : WorkloadRef) (payload : PolicyPayload)
  | deletePolicy (ref : WorkloadRef)
  | setInterfacePolicy (interface : String) (policy : TrafficPolicy)
  | deleteInterfacePolicy (interface : String)
  | changeDns (change : DnsChange) (config : DnsConfig) (aliases : List DnsAlias)
  | interfaces
  | interface (id : String)
  | updateInterface (interface : Agent.Interface)
  | updateInterfaces (interfaces : List Agent.Interface)
  | register
  deriving DecidableEq

namespace Job

/-- The workload whose policy a job sets or removes. -/
def policyOn? : Job → Option String
  | .setPolicy ref _ | .deletePolicy ref | .action (.undeploy ref) => some ref.id
  | _ => none

/-- The policy that a job sets. -/
def given? : Job → Option PolicyPayload
  | .setPolicy _ payload => some payload
  | _ => none

/-- What a job is called where it runs out of time. -/
def title : Job → String
  | .action (.deploy _) => "deploy"
  | .action (.redeploy _) => "redeploy"
  | .action (.command _ command) => command.name
  | .action (.undeploy _) => "undeploy"
  | .status _ => "get status"
  | .setPolicy _ _ => "set policy"
  | .deletePolicy _ => "delete policy"
  | .setInterfacePolicy _ _ => "set interface policy"
  | .deleteInterfacePolicy _ => "delete interface policy"
  | .changeDns change _ _ => change.operation
  | .interfaces => "get interfaces"
  | .interface _ => "get interface"
  | .updateInterface _ => "update interface"
  | .updateInterfaces _ => "bulk update interfaces"
  | .register => "register"

end Job

namespace Controller

/-- The operation of a job. What it reports besides its success is left out. -/
def perform (controller : Controller) (nodeId : String) : Job → Operation Unit
  | .action action => (controller.carryOut nodeId action).map fun _ => ()
  | .status ref => (controller.status nodeId ref).map fun _ => ()
  | .setPolicy ref payload => controller.setPolicy nodeId ref payload
  | .deletePolicy ref => controller.deletePolicy nodeId ref
  | .setInterfacePolicy interface policy => controller.setInterfacePolicy nodeId interface policy
  | .deleteInterfacePolicy interface => controller.deleteInterfacePolicy nodeId interface
  | .changeDns change config aliases => controller.changeDns change nodeId config aliases
  | .interfaces => (controller.interfaces nodeId).map fun _ => ()
  | .interface id => (controller.interface nodeId id).map fun _ => ()
  | .updateInterface interface => controller.updateInterface nodeId interface
  | .updateInterfaces interfaces => controller.updateInterfaces nodeId interfaces
  | .register => controller.register nodeId

/-- Every operation goes by the name of its job, in every mode and on every node. -/
theorem perform_name (controller : Controller) (nodeId : String) (job : Job) :
    (controller.perform nodeId job).name = job.title := by
  cases job with
  | action action => cases action <;> rfl
  | _ => rfl

end Controller

/-- The network policy for what is set for a workload bears a name that tells the workload and the
node, in the namespace for workloads, and selects pods by a label that tells them too. -/
theorem Cluster.Placing.policy_for_spec {placing : Placing} {workload serial : String}
    {payload : PolicyPayload} {object : NetworkPolicy}
    (h : placing.policyFor workload serial payload = .ok object) :
    object.metadata = ⟨some (networkPolicyName workload serial), some placing.namespaceName,
        some [(podLabel, appLabel workload serial)]⟩ ∧
      object.spec.map (·.pods) = some ⟨some [(podLabel, appLabel workload serial)]⟩ := by
  cases payload with
  | native policy => cases h
  | cluster policy =>
      obtain ⟨-, hmetadata, spec, hspec, hpods, -⟩ := NetworkPolicy.of_policy_spec h
      rw [hspec, Option.map_some, hpods]
      exact ⟨hmetadata, rfl⟩

end EdgeFleet
