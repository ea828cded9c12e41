import EdgeFleet.Orchestration.Script
import EdgeFleet.Pki.Store
import EdgeFleet.Proofs.Orchestration.Placing
import EdgeFleet.Proofs.Uuid

/-!
# Actions on workloads

The operations that change what runs on a node, as values, so that runs, retries and interleavings
can be lists of them. `Controller.carryOut` is the operation of an action. The `carry_out_`
theorems write the operations of a controller that keeps workloads in the cluster out as trees of
calls, with the checks that come before the first call.
-/

namespace EdgeFleet

/-- Something that is done with a workload on a node. -/
inductive Action where
  | deploy (workload : Workload)
  | redeploy (workload : Workload)
  | command (ref : WorkloadRef) (command : Command)
  | undeploy (ref : WorkloadRef)
  deriving DecidableEq

/-- The ID of the workload that an action is about. -/
def Action.workloadId : Action → String
  | .deploy workload | .redeploy workload => workload.id
  | .command ref _ | .undeploy ref => ref.id

/-- A workload that passes its check has a UUID. -/
theorem Workload.valid_of_check {workload : Workload} (h : workload.check = .ok ()) :
    Uuid.isValid workload.id := by
  cases workload with
  | app app =>
      cases hid : Uuid.isValid app.id with
      | true => exact hid
      | false =>
          simp only [check, App.check, Check.uuid, Check.require, hid] at h
          cases h
  | vnf vnf =>
      cases hid : Uuid.isValid vnf.id with
      | true => exact hid
      | false =>
          simp only [check, Vnf.check, Check.uuid, Check.require, hid] at h
          cases h

/-- How an action ends, as far as callers tell errors apart. -/
inductive Verdict where
  | ok (status : Option Status)
  | notFound
  | failedPrecondition
  | otherError
  deriving Repr, DecidableEq

/-- How an action ended. -/
def Verdict.of : Except Error (Option Status) → Verdict
  | .ok status => .ok status
  | .error (.notFound _) => .notFound
  | .error (.failedPrecondition _) => .failedPrecondition
  | .error _ => .otherError

/-- Only what ends well is found to end well. -/
theorem Verdict.eq_ok {result : Except Error (Option Status)} {status : Option Status}
    (h : Verdict.of result = .ok status) : result = .ok status := by
  cases result with
  | ok reported => exact congrArg Except.ok (Verdict.ok.inj h)
  | error error => cases error <;> cases h

namespace Controller

/-- The operation of an action, which reports a status or nothing. -/
def carryOut (controller : Controller) (nodeId : String) : Action → Operation (Option Status)
  | .deploy workload => (controller.deploy nodeId workload).map some
  | .redeploy workload => (controller.redeploy nodeId workload).map fun _ => none
  | .command ref command => (controller.command nodeId ref command).map some
  | .undeploy ref => (controller.undeploy nodeId ref).map fun _ => none

variable {settings : Settings} {broker : Broker} {controller : Controller} {hasCluster : Bool}

/-- A controller that settings ask for has their mode and the backend of this mode. -/
theorem of_settings_ok (hcontroller : ofSettings settings broker hasCluster = .ok controller) :
    controller = ⟨settings.mode, broker, backendOf settings broker settings.mode⟩ := by
  unfold ofSettings at hcontroller
  split at hcontroller
  · cases hcontroller
  · exact (Except.ok.inj hcontroller).symm

/-- In the modes that use the cluster, a controller's backend keeps workloads there. -/
theorem backend_of_cluster_mode (hmode : settings.mode.usesCluster)
    (hcontroller : ofSettings settings broker hasCluster = .ok controller) :
    ∃ route, controller.backend = (placing settings broker route).backend := by
  obtain rfl := of_settings_ok hcontroller
  cases hkind : settings.mode with
  | native => simp [hkind, Mode.usesCluster] at hmode
  | kubernetes => exact ⟨.node broker, rfl⟩
  | kubernetesOvn => exact ⟨.networkPolicy, rfl⟩

/-- A controller has the mode that the settings ask for. -/
theorem mode_of_settings (hcontroller : ofSettings settings broker hasCluster = .ok controller) :
    controller.mode = settings.mode := by
  obtain rfl := of_settings_ok hcontroller
  rfl

/-- In the mode in which policies go to the cluster too, they are network policies. -/
theorem backend_of_ovn_mode (hmode : settings.mode = .kubernetesOvn)
    (hcontroller : ofSettings settings broker hasCluster = .ok controller) :
    controller.backend = (placing settings broker .networkPolicy).backend := by
  obtain rfl := of_settings_ok hcontroller
  simp only [hmode, backendOf]

/-- In the native mode, everything is handed to the nodes. -/
theorem backend_of_native_mode (hmode : settings.mode = .native)
    (hcontroller : ofSettings settings broker hasCluster = .ok controller) :
    controller.backend = Native.backend broker := by
  obtain rfl := of_settings_ok hcontroller
  simp only [hmode, backendOf]

/-- The ID of a workload passes its check unless it is empty. -/
theorem check_ref_ok_iff {ref : WorkloadRef} : checkRef ref = .ok () ↔ ref.id ≠ "" := by
  simp [checkRef]

theorem check_ref_ok {ref : WorkloadRef} (h : ref.id ≠ "") : checkRef ref = .ok () :=
  check_ref_ok_iff.2 h

end Controller

namespace Cluster.Placing

/-- The numbers of copies that a command sets, in order. -/
def counts : Command → List Int
  | .start => [1]
  | .stop => [0]
  | .restart => [0, 1]

/-- Scales a deployment through numbers of copies, in order, and ends in a result. -/
def scaleAll {α : Type} (name : String) (result : Except Error α) : List Int → Program α
  | [] => .done result
  | count :: rest => .proceed (.cluster (.scaleDeployment name count)) fun _ =>
      scaleAll name result rest

/-- A command scales through its numbers of copies. -/
theorem scale_bind {α : Type} (name : String) (command : Command) (result : Except Error α) :
    (scale name command >>= fun _ => Program.done result) =
      scaleAll name result (counts command) := by
  cases command with
  | start => exact Program.ask_bind (.scaleDeployment name 1) _
  | stop => exact Program.ask_bind (.scaleDeployment name 0) _
  | restart =>
      rw [scale, Program.bind_assoc]
      refine (Program.ask_bind (.scaleDeployment name 0) _).trans
        (congrArg (Program.proceed (.cluster (.scaleDeployment name 0))) (funext fun _ => ?_))
      exact Program.ask_bind (.scaleDeployment name 1) _

end Cluster.Placing

namespace Controller

open Cluster Placing

variable {controller : Controller} {placing : Placing} {nodeId serial : String}
  (hbackend : controller.backend = placing.backend)
  (hserial : placing.serial nodeId = .ok serial)
include hbackend hserial

/-- The calls of deploying a workload that passes its check and can be built. -/
theorem carry_out_deploy {workload : Workload} {deployment : Deployment}
    (hcheck : workload.check = .ok ())
    (hbuild : placing.build nodeId serial workload 0 = .ok deployment) :
    (controller.carryOut nodeId (.deploy workload)).program =
      .proceed (.cluster (.countNodes nodeId)) (onlyMachine nodeId
        (.proceed (.cluster (.createDeployment deployment)) fun _ =>
          .done (.ok (some .deployed)))) := by
  simp only [carryOut, Operation.map, deploy, hcheck, hbackend, Placing.backend,
    deploy_calls hserial hbuild, Program.check_ok, Program.monad_lift_eq, Program.done_ok_bind,
    Program.map_eq, Program.pure_eq, Program.proceed_bind, only_machine_bind]

/-- The calls of redeploying a workload that passes its check. -/
theorem carry_out_redeploy {workload : Workload} (hcheck : workload.check = .ok ()) :
    (controller.carryOut nodeId (.redeploy workload)).program =
      .proceed (.cluster (.getDeployment (deploymentName workload.id serial)))
        (present (deploymentName workload.id serial) workload.ref fun current =>
          .done (placing.build nodeId serial workload current.replicas) >>= fun deployment =>
            .proceed (.cluster (.applyDeployment deployment)) fun _ => .done (.ok none)) := by
  simp only [carryOut, Operation.map, redeploy, hcheck, hbackend, Placing.backend,
    redeploy_calls hserial, Program.check_ok, Program.monad_lift_eq, Program.done_ok_bind,
    Program.map_eq, Program.proceed_bind, present_bind, Program.bind_assoc]

/-- The calls of a command. -/
theorem carry_out_command {ref : WorkloadRef} (hid : ref.id ≠ "") (command : Command) :
    (controller.carryOut nodeId (.command ref command)).program =
      .proceed (.cluster (.getDeployment (deploymentName ref.id serial)))
        (present (deploymentName ref.id serial) ref fun current =>
          .done (command.check current.runState) >>= fun _ =>
            scaleAll (deploymentName ref.id serial) (.ok (some command.target))
              (counts command)) := by
  simp only [carryOut, Operation.map, Controller.command, check_ref_ok hid, hbackend,
    Placing.backend, command_calls hserial, Program.monad_lift_eq, Program.done_ok_bind,
    Program.map_eq, Program.pure_eq, Program.proceed_bind, present_bind, Program.bind_assoc]
  simp only [scale_bind]

/-- The calls of undeploying where policies are network policies. -/
theorem carry_out_undeploy {ref : WorkloadRef} (hid : ref.id ≠ "")
    (hroute : placing.policies = .networkPolicy) :
    (controller.carryOut nodeId (.undeploy ref)).program =
      .proceed (.cluster (.deleteDeployment (deploymentName ref.id serial))) fun (existed : Bool) =>
        if existed then
          .proceed (.cluster (.deleteNetworkPolicy (networkPolicyName ref.id serial))) fun _ =>
            .done (.ok none)
        else .done (.error (.notFound (.deploymentOf (deploymentName ref.id serial) ref))) := by
  simp only [carryOut, Operation.map, undeploy, check_ref_ok hid, hbackend, Placing.backend,
    undeploy_calls hserial, delete_policy_calls hserial _ hroute, Program.monad_lift_eq,
    Program.done_ok_bind, Program.map_eq]
  refine (Program.proceed_bind _ _ _).trans (congrArg (Program.proceed
    (.cluster (.deleteDeployment (deploymentName ref.id serial)))) (funext fun existed => ?_))
  cases existed with
  | false => rfl
  | true => exact Program.proceed_bind _ _ _

end Controller

namespace Command

variable {command : Command} {status : Status}

/-- A command that is allowed passes its check. -/
theorem check_allowed (h : command.allowed status) : command.check status = .ok () :=
  if_pos h

/-- A command that is not allowed does not pass its check. -/
theorem check_refused (h : command.allowed status = false) :
    command.check status = .error (.failedPrecondition (.command command status)) :=
  if_neg (by simp [h])

end Command

/-- A check that passes. -/
theorem Check.eq_ok {check : Check} (h : check.isOk) : check = .ok () := by
  cases check with
  | ok => rfl
  | error violation => cases h

/-- An operation that does not end well ends in an error. -/
theorem exists_error {α : Type} {result : Except Error α} (h : result.isOk = false) :
    ∃ error, result = .error error := by
  cases result with
  | ok value => cases h
  | error error => exact ⟨error, rfl⟩

/-! ### A small fleet

Two nodes and an application, on which the theorems about runs are tried.
-/

namespace Sample

/-- A node. -/
def node : Node :=
  ⟨"a3c1e2f4-5b6d-4e7f-8a9b-0c1d2e3f4a5b", "edge-1", "rack 4", "ABC123"⟩

/-- A node whose serial number begins with the one of the first. -/
def otherNode : Node :=
  ⟨"d4c3b2a1-0f9e-4d8c-8b7a-695847362514", "edge-2", "rack 4", "ABC123-9"⟩

/-- An application in a container that opens one port. -/
def app : App where
  id := "6a1f0c2e-3b4d-4e5f-8a9b-0c1d2e3f4a5b"
  packaging := .container
  name := "nginx"
  version := "1.25"
  vendor := "f5"
  description := "web frontend"
  cores := 2
  memory := 512
  ports := [⟨80, .tcp⟩]
  source := "http://images.example.net/nginx.tar.gz"

/-- The application as a virtual machine, which cannot be kept in the cluster. -/
def machine : Workload :=
  .app { app with packaging := .vm }

/-- The reference to the application. -/
def ref : WorkloadRef :=
  ⟨.app, app.id⟩

/-- Settings under which workloads and their policies are kept in the cluster. -/
def settings : Settings :=
  { Settings.standard with mode := .kubernetesOvn }

/-- Reads keys and certificates as authorities do. -/
def library : Tls.Library :=
  Pki.tlsLibrary .standard

/-- Encrypts what is sent, and shows no certificate. -/
def tls : Tls.Config :=
  ⟨⟨none, []⟩, none⟩

/-- Reaches the two nodes. -/
def broker : Broker :=
  .ofSettings settings
    ⟨fun _ => .ok [], fun id => .ok ([node, otherNode].find? (·.id == id))⟩ library (some tls)

/-- The controller of the settings. -/
def controller : Controller :=
  ⟨.kubernetesOvn, broker, (Controller.placing settings broker .networkPolicy).backend⟩

/-- The deployment of the application on the first node. -/
def deployment (count : Int) : Cluster.Deployment :=
  ((Controller.placing settings broker .networkPolicy).build node.id node.serial (.app app)
    count).toOption.getD default

/-- A cluster with a machine for every node, and nothing on it. -/
def bare : Cluster.Store :=
  ⟨fun _ => 1, [], []⟩

/-- A cluster in which the application is deployed on the first node and has a policy. -/
def store (count : Int) : Cluster.Store where
  machines _ := 1
  deployments := [(Cluster.deploymentName ref.id node.serial, deployment count)]
  policies := [(Cluster.networkPolicyName ref.id node.serial, default)]

/-- A world whose cluster keeps `store` and meets requests with `replies` first. -/
def script (store : Cluster.Store) (replies : List ClusterReply) : Script :=
  ⟨false, none, [], replies, store, []⟩

/-- The settings ask for the controller. -/
theorem of_settings : Controller.ofSettings settings broker true = .ok controller := rfl

/-- The first node is known. -/
theorem node_known : broker.directory.node node.id = .ok (some node) := rfl

/-- The name that the first node must prove. -/
theorem node_name : Net.ServerName.parse? node.id = some (.host node.id) := by
  decide +kernel

/-- The application passes its check. -/
theorem check_app : (Workload.app app).check = .ok () :=
  Check.eq_ok (by decide +kernel)

end Sample

end EdgeFleet
