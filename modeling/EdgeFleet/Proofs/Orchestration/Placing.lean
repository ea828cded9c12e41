import EdgeFleet.Proofs.Check
import EdgeFleet.Proofs.Cluster.Store
import EdgeFleet.Proofs.Orchestration.Program

/-!
# The calls of a cluster backend

What each operation on a workload asks of the cluster, once its node is known. `of_workload_spec`
says all that the operations rely on about a deployment that is built for a workload. The
`_calls` theorems write every operation out as its tree of calls: which call comes first, and for
each answer what comes next.
-/

namespace EdgeFleet

namespace Cluster

/-- Whether the cluster has a counterpart of a transport protocol. -/
def ContainerPort.knows : PortProtocol → Bool
  | .tcp | .udp | .sctp => true
  | .icmp | .all => false

/-- A port of a protocol that the cluster knows can be opened. -/
theorem ContainerPort.of_exposed_ok {exposed : ExposedPort} (h : knows exposed.protocol) :
    ∃ port, ofExposed exposed = .ok port := by
  cases hprotocol : exposed.protocol with
  | tcp => exact ⟨_, by simp only [ofExposed, hprotocol]; rfl⟩
  | udp => exact ⟨_, by simp only [ofExposed, hprotocol]; rfl⟩
  | sctp => exact ⟨_, by simp only [ofExposed, hprotocol]; rfl⟩
  | icmp => simp [hprotocol, knows] at h
  | all => simp [hprotocol, knows] at h

/-- Ports of protocols that the cluster knows can all be opened. -/
theorem ContainerPort.of_exposed_all {ports : List ExposedPort}
    (h : ∀ exposed ∈ ports, knows exposed.protocol) :
    ∃ opened, ports.mapM ofExposed = .ok opened :=
  map_all_ok fun exposed hexposed => of_exposed_ok (h exposed hexposed)

/-- A port that can be opened is of a protocol that the cluster knows. -/
theorem ContainerPort.knows_of_ok {exposed : ExposedPort} {port : ContainerPort}
    (h : ofExposed exposed = .ok port) : knows exposed.protocol := by
  cases hprotocol : exposed.protocol with
  | tcp | udp | sctp => rfl
  | icmp | all => simp [ofExposed, hprotocol] at h

/-- A port that cannot be opened is refused. -/
theorem ContainerPort.of_exposed_error {exposed : ExposedPort} {error : Error}
    (h : ofExposed exposed = .error error) : ∃ cause, error = .validation cause := by
  cases hprotocol : exposed.protocol with
  | tcp | udp | sctp => simp [ofExposed, hprotocol] at h
  | icmp | all =>
      refine ⟨.portProtocol exposed.protocol, ?_⟩
      simpa [ofExposed, hprotocol] using h.symm

namespace Deployment

variable {namespaceName pullPolicy nodeId serial : String} {workload : Workload} {count : Int}

/-- A deployment can be built for every workload that comes in containers and opens ports of
protocols that the cluster knows only. -/
theorem of_workload_ok (hpackaging : workload.packaging = .container)
    (hports : ∀ exposed ∈ workload.ports, ContainerPort.knows exposed.protocol) :
    ∃ deployment, ofWorkload namespaceName pullPolicy nodeId serial workload count =
      .ok deployment := by
  obtain ⟨opened, hopened⟩ := ContainerPort.of_exposed_all hports
  simp [ofWorkload, hpackaging, hopened, bind, Except.bind, pure, Except.pure]

/-- Any other workload is refused. -/
theorem of_workload_refused (h : ¬ (workload.packaging = .container ∧
    ∀ exposed ∈ workload.ports, ContainerPort.knows exposed.protocol)) :
    ∃ cause, ofWorkload namespaceName pullPolicy nodeId serial workload count =
      .error (.validation cause) := by
  cases hpackaging : workload.packaging with
  | vm => exact ⟨.virtualMachine workload.ref, by simp only [ofWorkload, hpackaging]; rfl⟩
  | container =>
      cases hopened : workload.ports.mapM ContainerPort.ofExposed with
      | ok opened =>
          refine absurd ⟨hpackaging, fun exposed hexposed => ?_⟩ h
          obtain ⟨port, hport⟩ := ok_of_map_all hopened exposed hexposed
          exact ContainerPort.knows_of_ok hport
      | error error =>
          obtain ⟨exposed, -, hexposed⟩ := map_all_error hopened
          obtain ⟨cause, rfl⟩ := ContainerPort.of_exposed_error hexposed
          refine ⟨cause, ?_⟩
          simp [ofWorkload, hpackaging, hopened, bind, Except.bind]

/-- What is built for a workload, given the ports that it opens. -/
theorem of_workload_iff {deployment : Deployment} :
    ofWorkload namespaceName pullPolicy nodeId serial workload count = .ok deployment ↔
      workload.packaging = .container ∧
        ∃ ports, workload.ports.mapM ContainerPort.ofExposed = .ok ports ∧ deployment = {
          metadata := ⟨some (deploymentName workload.id serial), some namespaceName,
            some (labels nodeId serial workload.id)⟩
          spec := some {
            replicas := some count
            selector := ⟨some (labels nodeId serial workload.id)⟩
            strategy := some (some "Recreate")
            template := {
              metadata := some ⟨none, none, some (labels nodeId serial workload.id)⟩
              spec := some {
                containers := [container pullPolicy serial workload ports]
                machineLabels := some [(nodeLabel, nodeId)] } } }
          status := none } := by
  cases hpackaging : workload.packaging with
  | vm => simp [ofWorkload, hpackaging, bind, Except.bind]
  | container =>
      cases hports : workload.ports.mapM ContainerPort.ofExposed with
      | error error => simp [ofWorkload, hpackaging, hports, bind, Except.bind]
      | ok ports =>
          simp [ofWorkload, hpackaging, hports, bind, Except.bind, pure, Except.pure, eq_comm]

/-- The deployment that is built for a workload has the workload's name and asks for the number of
copies that it is built with. -/
theorem of_workload_spec {deployment : Deployment}
    (h : ofWorkload namespaceName pullPolicy nodeId serial workload count = .ok deployment) :
    Store.nameOf deployment.metadata = deploymentName workload.id serial ∧
      deployment.replicas? = some count ∧ deployment.spec.isSome := by
  obtain ⟨-, ports, -, rfl⟩ := of_workload_iff.1 h
  exact ⟨rfl, rfl, rfl⟩

end Deployment

namespace Placing

variable {placing : Placing} {nodeId : String}

/-- What comes in containers and opens ports of protocols that the cluster knows only can be built,
under its own name and with the number of copies asked for. -/
theorem build_ok (nodeId serial : String) {workload : Workload} (count : Int)
    (hpackaging : workload.packaging = .container)
    (hports : ∀ exposed ∈ workload.ports, ContainerPort.knows exposed.protocol) :
    ∃ deployment, placing.build nodeId serial workload count = .ok deployment ∧
      Store.nameOf deployment.metadata = deploymentName workload.id serial ∧
      deployment.replicas? = some count := by
  obtain ⟨deployment, hbuild⟩ := Deployment.of_workload_ok hpackaging hports
  obtain ⟨hname, hreplicas, -⟩ := Deployment.of_workload_spec hbuild
  exact ⟨deployment, hbuild, hname, hreplicas⟩

/-- The serial number of a known node. -/
theorem serial_eq {node : Node} (h : placing.directory.node nodeId = .ok (some node)) :
    placing.serial nodeId = .ok node.serial := by
  simp only [serial, h]
  rfl

/-- A serial number is found only for a node that is known. -/
theorem serial_cases (placing : Placing) (nodeId : String) :
    (∃ error, placing.serial nodeId = .error error) ∨
      ∃ node, placing.directory.node nodeId = .ok (some node) ∧
        placing.serial nodeId = .ok node.serial := by
  cases hnode : placing.directory.node nodeId with
  | error error => exact .inl ⟨error, by simp only [serial, hnode]; rfl⟩
  | ok found =>
      cases found with
      | none => exact .inl ⟨.notFound (.node nodeId), by simp only [serial, hnode]; rfl⟩
      | some node => exact .inr ⟨node, rfl, serial_eq hnode⟩

/-- Goes on if exactly one machine of the cluster is the node. -/
def onlyMachine {α : Type} (nodeId : String) (next : Program α) : Nat → Program α
  | 1 => next
  | 0 => .done (.error (.notFound (.clusterNode nodeId)))
  | count => .done (.error (.failedPrecondition (.clusterNodes count nodeId)))

/-- Goes on with a deployment that must be there. -/
def present {α : Type} (name : String) (ref : WorkloadRef) (next : Deployment → Program α) :
    Option Deployment → Program α
  | some deployment => next deployment
  | none => .done (.error (.notFound (.deploymentOf name ref)))

section Answers

variable {α β : Type} (name : String) (ref : WorkloadRef) (next : Deployment → Program α)
  (program : Program α) (rest : α → Program β)

@[simp] theorem only_machine_one : onlyMachine nodeId program 1 = program := rfl

@[simp] theorem present_some (deployment : Deployment) :
    present name ref next (some deployment) = next deployment := rfl

@[simp] theorem present_none :
    present name ref next none = .done (.error (.notFound (.deploymentOf name ref))) := rfl

/-- What comes after a count comes after it is found to be one. -/
@[simp] theorem only_machine_bind (count : Nat) :
    (onlyMachine nodeId program count >>= rest) = onlyMachine nodeId (program >>= rest) count := by
  match count with
  | 0 => rfl
  | 1 => rfl
  | _ + 2 => rfl

/-- What comes after a deployment is fetched comes after it is found to be there. -/
@[simp] theorem present_bind (found : Option Deployment) :
    (present name ref next found >>= rest) =
      present name ref (fun deployment => next deployment >>= rest) found := by
  cases found <;> rfl

/-- Fetching a deployment that must exist is one call, which goes on only if there is one. -/
theorem existing_bind :
    (existing name ref >>= next) =
      .proceed (.cluster (.getDeployment name)) (present name ref next) := by
  simp only [existing, Program.ask_eq, Program.proceed_bind]
  refine congrArg (Program.proceed (.cluster (.getDeployment name))) (funext fun found => ?_)
  cases found <;> rfl

end Answers

variable {serial : String} (hserial : placing.serial nodeId = .ok serial)
include hserial

/-- Deploying builds the deployment, counts the machines that carry the node's ID, and creates the
deployment if there is exactly one. -/
theorem deploy_calls {workload : Workload} {deployment : Deployment}
    (hbuild : placing.build nodeId serial workload 0 = .ok deployment) :
    placing.deploy nodeId workload =
      .proceed (.cluster (.countNodes nodeId)) (onlyMachine nodeId
        (.proceed (.cluster (.createDeployment deployment)) fun _ => .done (.ok ()))) := by
  simp only [deploy, hserial, hbuild, Program.monad_lift_eq, Program.done_ok_bind]
  refine (Program.ask_bind (.countNodes nodeId) _).trans
    (congrArg (Program.proceed (.cluster (.countNodes nodeId))) (funext fun count => ?_))
  match count with
  | 0 => rfl
  | 1 => rfl
  | _ + 2 => rfl

/-- Redeploying fetches the deployment and applies one that is built for as many copies as the
fetched one asks for. -/
theorem redeploy_calls (workload : Workload) :
    placing.redeploy nodeId workload =
      .proceed (.cluster (.getDeployment (deploymentName workload.id serial)))
        (present (deploymentName workload.id serial) workload.ref fun current =>
          .done (placing.build nodeId serial workload current.replicas) >>= fun deployment =>
            .proceed (.cluster (.applyDeployment deployment)) fun _ => .done (.ok ())) := by
  simp only [redeploy, hserial, Program.monad_lift_eq, Program.done_ok_bind, existing_bind]
  rfl

/-- A command fetches the deployment and scales it if the number of copies allows the command. -/
theorem command_calls (ref : WorkloadRef) (command : Command) :
    placing.command nodeId ref command =
      .proceed (.cluster (.getDeployment (deploymentName ref.id serial)))
        (present (deploymentName ref.id serial) ref fun current =>
          .done (command.check current.runState) >>= fun _ =>
            scale (deploymentName ref.id serial) command) := by
  simp only [Placing.command, hserial, Program.monad_lift_eq, Program.done_ok_bind, existing_bind]

/-- Undeploying deletes the deployment and then, if there was one, the policy. -/
theorem undeploy_calls (ref : WorkloadRef) :
    placing.undeploy nodeId ref =
      .proceed (.cluster (.deleteDeployment (deploymentName ref.id serial))) fun (existed : Bool) =>
        if existed then placing.deletePolicy nodeId ref
        else .done (.error (.notFound (.deploymentOf (deploymentName ref.id serial) ref))) := by
  simp only [undeploy, hserial, Program.monad_lift_eq, Program.done_ok_bind]
  exact Program.ask_bind (.deleteDeployment (deploymentName ref.id serial)) _

/-- Where policies are network policies, removing one is a single deletion, which need not find
anything. -/
theorem delete_policy_calls (ref : WorkloadRef) (hroute : placing.policies = .networkPolicy) :
    placing.deletePolicy nodeId ref =
      .proceed (.cluster (.deleteNetworkPolicy (networkPolicyName ref.id serial))) fun _ =>
        .done (.ok ()) := by
  simp only [deletePolicy, hroute, hserial, Program.monad_lift_eq, Program.done_ok_bind]
  exact Program.ask_bind (.deleteNetworkPolicy (networkPolicyName ref.id serial)) _

/-- The network policy for what is set as the policy of a workload on a node of a serial number. -/
def policyFor (placing : Placing) (workload serial : String) :
    PolicyPayload → Except Error NetworkPolicy
  | .cluster policy => NetworkPolicy.ofPolicy policy (networkPolicyName workload serial)
      placing.namespaceName [(podLabel, appLabel workload serial)]
  | .native _ => .error (.validation .notForCluster)

/-- Where policies are network policies, setting one that can be translated is a single call, which
puts the translation in the place of any other. -/
theorem set_policy_calls (ref : WorkloadRef) (hroute : placing.policies = .networkPolicy)
    {payload : PolicyPayload} {object : NetworkPolicy}
    (hobject : placing.policyFor ref.id serial payload = .ok object) :
    placing.setPolicy nodeId ref payload =
      .proceed (.cluster (.applyNetworkPolicy object)) fun _ => .done (.ok ()) := by
  cases payload with
  | native policy => cases hobject
  | cluster policy =>
      simp only [policyFor] at hobject
      simp only [setPolicy, hroute, hserial, hobject, Program.monad_lift_eq, Program.done_ok_bind]
      rfl

/-- One that cannot be translated is not set. -/
theorem set_policy_fails (ref : WorkloadRef) (hroute : placing.policies = .networkPolicy)
    {payload : PolicyPayload} {error : Error}
    (hobject : placing.policyFor ref.id serial payload = .error error) :
    placing.setPolicy nodeId ref payload = .done (.error error) := by
  cases payload with
  | native policy =>
      cases hobject
      simp only [setPolicy, hroute, Program.fail_eq]
  | cluster policy =>
      simp only [policyFor] at hobject
      simp only [setPolicy, hroute, hserial, hobject, Program.monad_lift_eq, Program.done_ok_bind,
        Program.done_error_bind]

end Placing

end Cluster

end EdgeFleet
