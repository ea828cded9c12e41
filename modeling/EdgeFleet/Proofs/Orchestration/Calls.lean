import EdgeFleet.Proofs.Orchestration.Job

/-!
# The calls of a job

Which calls may be made for a job, whatever the calls before them are answered with. `Native.Makes`
and `Cluster.Placing.Makes` say it for the two backends, and `Controller.Tells` for the jobs that go
to the node in every mode. `Controller.perform_only` is the main result: what holds of these calls
holds of all calls of a controller, so that it can be shown by cases on them.
-/

namespace EdgeFleet

/-- The calls in which a node is sent a request. -/
inductive Broker.Tells (broker : Broker) (nodeId : String) (request : Agent.Request) : Call → Prop
  | dial {route : Route} (h : broker.route nodeId request.surface = .ok route) :
      Tells broker nodeId request (.dial nodeId route)
  | send (context : String) : Tells broker nodeId request (.agent nodeId context request)

/-- Sending a request takes these calls. -/
theorem Broker.send_only (broker : Broker) (nodeId context : String) (request : Agent.Request) :
    (broker.send nodeId context request).Only (broker.Tells nodeId request) :=
  .bind (.lift fun _ hroute => Program.only_make (.dial hroute)) fun _ =>
    Program.only_make (.send context)

/-- A backend makes only allowed calls on a node, for each job that it carries out. -/
structure Backend.Only (backend : Backend) (nodeId : String) (allowed : Job → Call → Prop) :
    Prop where
  deploy : ∀ workload, (backend.deploy nodeId workload).Only (allowed (.action (.deploy workload)))
  redeploy : ∀ workload,
    (backend.redeploy nodeId workload).Only (allowed (.action (.redeploy workload)))
  command : ∀ ref command,
    (backend.command nodeId ref command).Only (allowed (.action (.command ref command)))
  status : ∀ ref, (backend.status nodeId ref).Only (allowed (.status ref))
  undeploy : ∀ ref, (backend.undeploy nodeId ref).Only (allowed (.action (.undeploy ref)))
  setPolicy : ∀ ref payload,
    (backend.setPolicy nodeId ref payload).Only (allowed (.setPolicy ref payload))
  deletePolicy : ∀ ref, (backend.deletePolicy nodeId ref).Only (allowed (.deletePolicy ref))

/-- What is allowed to a backend may be widened. -/
theorem Backend.Only.mono {backend : Backend} {nodeId : String} {allowed wider : Job → Call → Prop}
    (h : backend.Only nodeId allowed) (hwider : ∀ job call, allowed job call → wider job call) :
    backend.Only nodeId wider where
  deploy workload := (h.deploy workload).mono (hwider _)
  redeploy workload := (h.redeploy workload).mono (hwider _)
  command ref command := (h.command ref command).mono (hwider _)
  status ref := (h.status ref).mono (hwider _)
  undeploy ref := (h.undeploy ref).mono (hwider _)
  setPolicy ref payload := (h.setPolicy ref payload).mono (hwider _)
  deletePolicy ref := (h.deletePolicy ref).mono (hwider _)

/-! ### Jobs that a node carries out -/

namespace Native

/-- The request that is made of a node to carry a job out. -/
inductive Sends : Job → Agent.Request → Prop
  | deploy (workload : Workload) :
      Sends (.action (.deploy workload)) (.deploy workload.packaging (.ofWorkload workload))
  | redeploy (workload : Workload) :
      Sends (.action (.redeploy workload)) (.redeploy (.ofWorkload workload))
  | command (ref : WorkloadRef) (command : Command) :
      Sends (.action (.command ref command)) (.command ref.family command ref.id)
  | status (ref : WorkloadRef) : Sends (.status ref) (.status ref.family ref.id)
  | undeploy (ref : WorkloadRef) : Sends (.action (.undeploy ref)) (.undeploy ref.family ref.id)
  | setPolicy {ref : WorkloadRef} {policy : TrafficPolicy} {message : Agent.Policy}
      (h : Agent.Policy.ofTraffic? ref.id (some policy) = .ok message) :
      Sends (.setPolicy ref (.native policy)) (.setPolicy message)
  | deletePolicy {ref : WorkloadRef} {message : Agent.Policy}
      (h : Agent.Policy.ofTraffic? ref.id none = .ok message) :
      Sends (.deletePolicy ref) (.setPolicy message)

/-- The calls that are made for a job that a node carries out. -/
def Makes (broker : Broker) (nodeId : String) (job : Job) (call : Call) : Prop :=
  ∃ request, Sends job request ∧ broker.Tells nodeId request call

variable (broker : Broker) (nodeId : String)

/-- Sending the request of a job takes the calls of the job. -/
theorem send_makes (context : String) {job : Job} {request : Agent.Request}
    (h : Sends job request) :
    (broker.send nodeId context request).Only (Makes broker nodeId job) :=
  (broker.send_only nodeId context request).mono fun _ hcall => ⟨request, h, hcall⟩

/-- A policy for the cluster is refused, and others are sent. -/
theorem set_policy_only (ref : WorkloadRef) (payload : PolicyPayload) :
    (setPolicy broker nodeId ref payload).Only (Makes broker nodeId (.setPolicy ref payload)) := by
  cases payload with
  | native policy => exact .lift fun _ hmessage => send_makes broker nodeId _ (.setPolicy hmessage)
  | cluster policy => trivial

/-- A policy is removed by sending one without rules. -/
theorem delete_policy_only (ref : WorkloadRef) :
    (pushPolicy broker nodeId ref none).Only (Makes broker nodeId (.deletePolicy ref)) :=
  .lift fun _ hmessage => send_makes broker nodeId _ (.deletePolicy hmessage)

/-- Handing everything to the node takes no other calls. -/
theorem backend_only : (backend broker).Only nodeId (Makes broker nodeId) where
  deploy workload := send_makes broker nodeId _ (.deploy workload)
  redeploy workload := send_makes broker nodeId _ (.redeploy workload)
  command ref command := send_makes broker nodeId _ (.command ref command)
  status ref := .bind (send_makes broker nodeId _ (.status ref)) fun _ => trivial
  undeploy ref := send_makes broker nodeId _ (.undeploy ref)
  setPolicy := set_policy_only broker nodeId
  deletePolicy := delete_policy_only broker nodeId

end Native

/-! ### Jobs that the cluster carries out -/

namespace Cluster.Placing

/-- What is built for a workload on a node, under its present serial number. -/
def Builds (placing : Placing) (nodeId : String) (workload : Workload) (count : Int)
    (deployment : Deployment) : Prop :=
  ∃ serial, placing.serial nodeId = .ok serial ∧
    placing.build nodeId serial workload count = .ok deployment

/-- The calls that are made for a job on a workload that is kept in the cluster. -/
inductive Makes (placing : Placing) (nodeId : String) : Job → Call → Prop
  | count (workload : Workload) :
      Makes placing nodeId (.action (.deploy workload)) (.cluster (.countNodes nodeId))
  | create {workload : Workload} {deployment : Deployment}
      (h : placing.Builds nodeId workload 0 deployment) :
      Makes placing nodeId (.action (.deploy workload)) (.cluster (.createDeployment deployment))
  | fetchToRedeploy {workload : Workload} {serial : String}
      (hserial : placing.serial nodeId = .ok serial) :
      Makes placing nodeId (.action (.redeploy workload))
        (.cluster (.getDeployment (deploymentName workload.id serial)))
  | apply {workload : Workload} {count : Int} {deployment : Deployment}
      (h : placing.Builds nodeId workload count deployment) :
      Makes placing nodeId (.action (.redeploy workload)) (.cluster (.applyDeployment deployment))
  | fetchToCommand {ref : WorkloadRef} {command : Command} {serial : String}
      (hserial : placing.serial nodeId = .ok serial) :
      Makes placing nodeId (.action (.command ref command))
        (.cluster (.getDeployment (deploymentName ref.id serial)))
  | scale {ref : WorkloadRef} {command : Command} {serial : String}
      (hserial : placing.serial nodeId = .ok serial) (count : Int) :
      Makes placing nodeId (.action (.command ref command))
        (.cluster (.scaleDeployment (deploymentName ref.id serial) count))
  | fetchStatus {ref : WorkloadRef} {serial : String}
      (hserial : placing.serial nodeId = .ok serial) :
      Makes placing nodeId (.status ref)
        (.cluster (.getDeployment (deploymentName ref.id serial)))
  | delete {ref : WorkloadRef} {serial : String} (hserial : placing.serial nodeId = .ok serial) :
      Makes placing nodeId (.action (.undeploy ref))
        (.cluster (.deleteDeployment (deploymentName ref.id serial)))
  | clear {ref : WorkloadRef} {call : Call} (h : Makes placing nodeId (.deletePolicy ref) call) :
      Makes placing nodeId (.action (.undeploy ref)) call
  | applyPolicy {ref : WorkloadRef} {payload : PolicyPayload} {serial : String}
      {object : NetworkPolicy} (hroute : placing.policies = .networkPolicy)
      (hserial : placing.serial nodeId = .ok serial)
      (h : placing.policyFor ref.id serial payload = .ok object) :
      Makes placing nodeId (.setPolicy ref payload) (.cluster (.applyNetworkPolicy object))
  | setOnNode {broker : Broker} {ref : WorkloadRef} {payload : PolicyPayload} {call : Call}
      (hroute : placing.policies = .node broker)
      (h : Native.Makes broker nodeId (.setPolicy ref payload) call) :
      Makes placing nodeId (.setPolicy ref payload) call
  | deletePolicy {ref : WorkloadRef} {serial : String}
      (hroute : placing.policies = .networkPolicy) (hserial : placing.serial nodeId = .ok serial) :
      Makes placing nodeId (.deletePolicy ref)
        (.cluster (.deleteNetworkPolicy (networkPolicyName ref.id serial)))
  | deleteOnNode {broker : Broker} {ref : WorkloadRef} {call : Call}
      (hroute : placing.policies = .node broker)
      (h : Native.Makes broker nodeId (.deletePolicy ref) call) :
      Makes placing nodeId (.deletePolicy ref) call

variable (placing : Placing) (nodeId : String)

/-- Fetching a deployment is a single call. -/
theorem existing_only {name : String} {allowed : Call → Prop}
    (h : allowed (.cluster (.getDeployment name))) (ref : WorkloadRef) :
    (existing name ref).Only allowed := by
  refine .bind (Program.only_make h) fun (found : Option Deployment) => ?_
  cases found <;> trivial

/-- Deploying counts the machines of the node, and creates nothing but what is built for the
workload. -/
theorem deploy_only (workload : Workload) :
    (placing.deploy nodeId workload).Only (placing.Makes nodeId (.action (.deploy workload))) := by
  refine .lift fun serial hserial => .lift fun deployment hbuild => ?_
  refine .bind (Program.only_make (.count workload)) fun (count : Nat) => ?_
  match count with
  | 0 => trivial
  | 1 => exact Program.only_make (.create ⟨serial, hserial, hbuild⟩)
  | _ + 2 => trivial

/-- Redeploying fetches the deployment of the workload, and applies nothing but what is built for
it. -/
theorem redeploy_only (workload : Workload) :
    (placing.redeploy nodeId workload).Only
      (placing.Makes nodeId (.action (.redeploy workload))) := by
  refine .lift fun serial hserial => .bind (existing_only (.fetchToRedeploy hserial) _) ?_
  exact fun _ => .lift fun _ hbuild => Program.only_make (.apply ⟨serial, hserial, hbuild⟩)

/-- A command fetches the deployment of the workload and scales no other. -/
theorem command_only (ref : WorkloadRef) (command : Command) :
    (placing.command nodeId ref command).Only
      (placing.Makes nodeId (.action (.command ref command))) := by
  refine .lift fun serial hserial => .bind (existing_only (.fetchToCommand hserial) ref) ?_
  refine fun _ => .lift fun _ _ => ?_
  cases command with
  | start => exact Program.only_make (.scale hserial 1)
  | stop => exact Program.only_make (.scale hserial 0)
  | restart =>
      exact .bind (Program.only_make (.scale hserial 0)) fun _ =>
        Program.only_make (.scale hserial 1)

/-- Asking for the status of a workload fetches its deployment. -/
theorem status_only (ref : WorkloadRef) :
    (placing.status nodeId ref).Only (placing.Makes nodeId (.status ref)) :=
  .lift fun _ hserial => .bind (existing_only (.fetchStatus hserial) ref) fun _ => trivial

/-- Setting a policy applies its translation where policies are network policies, and hands the
policy to the node elsewhere. -/
theorem set_policy_only (ref : WorkloadRef) (payload : PolicyPayload) :
    (placing.setPolicy nodeId ref payload).Only
      (placing.Makes nodeId (.setPolicy ref payload)) := by
  cases hroute : placing.policies with
  | node broker =>
      simp only [setPolicy, hroute]
      exact (Native.set_policy_only broker nodeId ref payload).mono fun _ => .setOnNode hroute
  | networkPolicy =>
      simp only [setPolicy, hroute]
      cases payload with
      | native policy => trivial
      | cluster policy =>
          exact .lift fun _ hserial => .lift fun _ hobject =>
            Program.only_make (.applyPolicy hroute hserial hobject)

/-- Deleting a policy deletes the network policy where policies are such, and asks the node
elsewhere. -/
theorem delete_policy_only (ref : WorkloadRef) :
    (placing.deletePolicy nodeId ref).Only (placing.Makes nodeId (.deletePolicy ref)) := by
  cases hroute : placing.policies with
  | node broker =>
      simp only [deletePolicy, hroute]
      exact (Native.delete_policy_only broker nodeId ref).mono fun _ => .deleteOnNode hroute
  | networkPolicy =>
      simp only [deletePolicy, hroute]
      exact .lift fun _ hserial =>
        .bind (Program.only_make (.deletePolicy hroute hserial)) fun _ => trivial

/-- Undeploying deletes the deployment of the workload and then its policy. -/
theorem undeploy_only (ref : WorkloadRef) :
    (placing.undeploy nodeId ref).Only (placing.Makes nodeId (.action (.undeploy ref))) := by
  refine .lift fun serial hserial =>
    .bind (Program.only_make (.delete hserial)) fun (existed : Bool) => ?_
  cases existed with
  | true => exact (placing.delete_policy_only nodeId ref).mono fun _ => .clear
  | false => trivial

/-- Keeping workloads in the cluster takes no other calls. -/
theorem backend_only : placing.backend.Only nodeId (placing.Makes nodeId) where
  deploy := placing.deploy_only nodeId
  redeploy := placing.redeploy_only nodeId
  command := placing.command_only nodeId
  status := placing.status_only nodeId
  undeploy := placing.undeploy_only nodeId
  setPolicy := placing.set_policy_only nodeId
  deletePolicy := placing.delete_policy_only nodeId

end Cluster.Placing

/-! ### Jobs that go to the node in every mode -/

namespace Controller

/-- The requests that are sent to a node for a job that no backend carries out. -/
inductive Sends (controller : Controller) : Job → Agent.Request → Prop
  | setInterfacePolicy {interface : String} {policy : TrafficPolicy} {message : Agent.Policy}
      (hmode : controller.mode ≠ .kubernetesOvn)
      (h : Agent.Policy.ofTraffic? interface (some policy) = .ok message) :
      Sends controller (.setInterfacePolicy interface policy) (.setInterfacePolicy message)
  | deleteInterfacePolicy {interface : String} {message : Agent.Policy}
      (hmode : controller.mode ≠ .kubernetesOvn)
      (h : Agent.Policy.ofTraffic? interface none = .ok message) :
      Sends controller (.deleteInterfacePolicy interface) (.setInterfacePolicy message)
  | record (change : DnsChange) (config : DnsConfig) (aliases : List DnsAlias)
      (record : DnsRecord) :
      Sends controller (.changeDns change config aliases) (change.recordRequest record)
  | forwarders (change : DnsChange) (config : DnsConfig) (aliases : List DnsAlias) :
      Sends controller (.changeDns change config aliases)
        (change.forwardersRequest config.forwarderIps)
  | interfaces : Sends controller .interfaces .interfaces
  | interface (id : String) : Sends controller (.interface id) (.interface id)
  | updateInterface (interface : Agent.Interface) :
      Sends controller (.updateInterface interface) (.updateInterface interface)
  | updateInterfaces (interfaces : List Agent.Interface) :
      Sends controller (.updateInterfaces interfaces) (.updateInterfaces interfaces)

/-- The calls that are made for a job that no backend carries out. -/
inductive Tells (controller : Controller) (nodeId : String) : Job → Call → Prop
  | register (host : String) : Tells controller nodeId .register (.register host)
  | connect {change : DnsChange} {config : DnsConfig} {aliases : List DnsAlias} {route : Route}
      (h : controller.broker.route nodeId .ela = .ok route) :
      Tells controller nodeId (.changeDns change config aliases) (.dial nodeId route)
  | tell {job : Job} {request : Agent.Request} {call : Call} (h : controller.Sends job request)
      (hcall : controller.broker.Tells nodeId request call) : Tells controller nodeId job call

variable {controller : Controller} {nodeId : String}

/-- Sending the request of a job takes the calls of the job. -/
theorem send_tells (context : String) {job : Job} {request : Agent.Request}
    (h : controller.Sends job request) :
    (controller.broker.send nodeId context request).Only (controller.Tells nodeId job) :=
  (controller.broker.send_only nodeId context request).mono fun _ => .tell h

/-- The policy of an interface is sent unless the cluster enforces policies. -/
theorem push_interface_policy_only {job : Job} {interface : String}
    {policy : Option TrafficPolicy}
    (h : ∀ message, controller.mode ≠ .kubernetesOvn →
      Agent.Policy.ofTraffic? interface policy = .ok message →
        controller.Sends job (.setInterfacePolicy message)) :
    (controller.pushInterfacePolicy nodeId interface policy).Only
      (controller.Tells nodeId job) := by
  refine .lift fun _ hmode => .lift fun message hmessage => ?_
  refine send_tells _ (h message (fun hovn => ?_) hmessage)
  simp [checkInterfacePolicies, hovn] at hmode

section Dns

variable (change : DnsChange) (config : DnsConfig) (aliases : List DnsAlias)

/-- Records are sent one by one. -/
theorem send_records_only (records : List DnsRecord) :
    (change.sendRecords nodeId records).Only
      (controller.Tells nodeId (.changeDns change config aliases)) := by
  induction records with
  | nil => trivial
  | cons record rest ih =>
      exact .bind (Program.only_make (.tell (.record change config aliases record) (.send _)))
        fun _ => ih

/-- A configuration is pushed over one connection. -/
theorem change_dns_only :
    (controller.changeDns change nodeId config aliases).program.Only
      (controller.Tells nodeId (.changeDns change config aliases)) := by
  have hforwarders : (change.sendForwarders nodeId config).Only
      (controller.Tells nodeId (.changeDns change config aliases)) := by
    unfold DnsChange.sendForwarders
    split
    · trivial
    · exact .bind (Program.only_make (.tell (.forwarders change config aliases) (.send _)))
        fun _ => trivial
  have hpush : (do
      let records ← (pushedRecords config aliases : Except Error _)
      controller.broker.connect nodeId .ela
      change.sendRecords nodeId records
      change.sendForwarders nodeId config : Program Unit).Only
        (controller.Tells nodeId (.changeDns change config aliases)) :=
    .bind trivial fun records =>
      .bind (.lift fun _ hroute => Program.only_make (.connect hroute)) fun _ =>
        .bind (send_records_only change config aliases records) fun _ => hforwarders
  cases change with
  | apply => exact .bind trivial fun _ => hpush
  | remove => exact hpush

end Dns

/-- A controller makes only allowed calls for a job if its backend does, and what it tells nodes
itself is allowed. -/
theorem perform_only (controller : Controller) {allowed : Job → Call → Prop}
    (hbackend : controller.backend.Only nodeId allowed)
    (htells : ∀ {job call}, controller.Tells nodeId job call → allowed job call) (job : Job) :
    (controller.perform nodeId job).program.Only (allowed job) := by
  have hsend {job : Job} {request : Agent.Request} (context : String)
      (h : controller.Sends job request) :
      (controller.broker.send nodeId context request).Only (allowed job) :=
    (send_tells context h).mono fun _ => htells
  cases job with
  | action action =>
      refine .bind ?_ fun _ => trivial
      cases action with
      | deploy workload =>
          have hdeploy := hbackend.deploy workload
          exact .bind (.bind trivial fun _ => .bind hdeploy fun _ => trivial) fun _ => trivial
      | redeploy workload =>
          exact .bind (.bind trivial fun _ => hbackend.redeploy workload) fun _ => trivial
      | command ref command =>
          have hcommand := hbackend.command ref command
          exact .bind (.bind trivial fun _ => .bind hcommand fun _ => trivial) fun _ => trivial
      | undeploy ref =>
          exact .bind (.bind trivial fun _ => hbackend.undeploy ref) fun _ => trivial
  | status ref => exact .bind (.bind trivial fun _ => hbackend.status ref) fun _ => trivial
  | setPolicy ref payload =>
      exact .bind trivial fun _ => .bind trivial fun _ => .bind trivial fun _ =>
        hbackend.setPolicy ref payload
  | deletePolicy ref => exact .bind trivial fun _ => hbackend.deletePolicy ref
  | setInterfacePolicy interface policy =>
      exact (push_interface_policy_only fun _ => .setInterfacePolicy).mono fun _ => htells
  | deleteInterfacePolicy interface =>
      exact (push_interface_policy_only fun _ => .deleteInterfacePolicy).mono fun _ => htells
  | changeDns change config aliases =>
      exact (change_dns_only change config aliases).mono fun _ => htells
  | interfaces => exact .bind (hsend _ .interfaces) fun _ => trivial
  | interface id => exact .bind (hsend _ (.interface id)) fun _ => trivial
  | updateInterface interface => exact hsend _ (.updateInterface interface)
  | updateInterfaces interfaces => exact hsend _ (.updateInterfaces interfaces)
  | register => exact .bind trivial fun host => Program.only_make (htells (.register host))

end Controller

end EdgeFleet
