import EdgeFleet.Cluster.Client
import EdgeFleet.Proofs.Agent.Policy
import EdgeFleet.Proofs.Cluster.NetworkPolicy
import EdgeFleet.Proofs.Inventory.Retrieval
import EdgeFleet.Proofs.Orchestration.DnsPush
import EdgeFleet.Proofs.Orchestration.Routing

/-!
# What an inventory has is accepted

Records are checked when an inventory is made of them, and what is asked of a controller is checked
once more, by the controller and by what translates it for a node or the cluster.
`admitted_not_rejected` says that the later checks agree with the first one: what an inventory gives
is never rejected. `Inventory.Offers` says what is asked, and `Program.Accepts` what becomes of it.
-/

namespace EdgeFleet

/-! ### Rejections -/

/-- Whether an error says that what was given is not valid or cannot be read. -/
def Error.isRejection : Error → Bool
  | .validation _ | .serialization => true
  | _ => false

/-- What a node says of a call is no rejection. -/
theorem Error.of_status_not_rejection (context : String) (status : RpcStatus) :
    (ofStatus context status).isRejection = false := by
  unfold ofStatus
  split <;> rfl

/-- A call ends a run in a rejection only if the cluster answers with this rejection. -/
theorem Exchange.of_rejection {operation : String} {exchange : Exchange} {error : Error}
    (h : exchange.error? operation = some error) (herror : error.isRejection) :
    ∃ request, exchange = ⟨.cluster request, .failed error⟩ := by
  obtain ⟨call, outcome⟩ := exchange
  cases outcome with
  | answered answer => cases h
  | hung =>
      obtain rfl := Option.some.inj h
      cases herror
  | failed failure =>
      obtain rfl := Option.some.inj h
      cases call with
      | register host => exact nomatch (failure : Empty)
      | dial nodeId route => cases herror
      | agent nodeId context request =>
          cases (Error.of_status_not_rejection context failure).symm.trans herror
      | cluster request => exact ⟨request, rfl⟩

namespace Cluster.Client

variable {client : Client} {asked : Request} {error : Error}

/-- An object without a name is a fault of the controller. -/
theorem check_name_not_rejection (h : checkName asked = .error error) :
    error.isRejection = false := by
  have hnamed {metadata : Metadata} (h : checkName.named metadata = .error error) :
      error.isRejection = false := by
    unfold checkName.named at h
    split at h
    · cases h
    · obtain rfl := Except.error.inj h
      rfl
  cases asked with
  | createDeployment one => exact hnamed h
  | applyDeployment one => exact hnamed h
  | applyNetworkPolicy one => exact hnamed h
  | _ => cases h

/-- A request that cannot be written down is not rejected for what it says. -/
theorem request_not_rejection (h : client.request asked = .error error) :
    error.isRejection = false := by
  unfold request at h
  cases hname : checkName asked with
  | error failure =>
      rw [hname] at h
      obtain rfl := Except.error.inj h
      exact check_name_not_rejection hname
  | ok named =>
      rw [hname] at h
      cases hencode : client.encode asked with
      | error fault =>
          rw [hencode] at h
          obtain rfl := Except.error.inj h
          rfl
      | ok written =>
          rw [hencode] at h
          cases h

/-- Neither is one that the cluster refuses: this is told in the cluster's own words. -/
theorem refused_not_rejection {status : ClusterStatus} (h : refused asked status = .error error) :
    error.isRejection = false := by
  cases asked with
  | createDeployment one =>
      dsimp only [refused] at h
      split at h
      all_goals
        obtain rfl := Except.error.inj h
        rfl
  | getDeployment name | deleteDeployment name | deleteNetworkPolicy name =>
      dsimp only [refused] at h
      split at h
      · cases h
      · obtain rfl := Except.error.inj h
        rfl
  | _ =>
      obtain rfl := Except.error.inj h
      rfl

/-- An answer that cannot be read is a fault of the cluster. -/
theorem answer_not_rejection {response : Http.Response} (h : answer asked response = .error error) :
    error.isRejection = false := by
  unfold answer at h
  split at h
  · obtain rfl := Except.error.inj h
    rfl
  · split at h
    · exact refused_not_rejection h
    · split at h
      · cases h
      · obtain rfl := Except.error.inj h
        rfl

/-- No client of a cluster answers with a rejection. -/
theorem perform_not_rejection {service : Http.Request → Option Http.Response}
    (h : client.perform service asked = .error error) : error.isRejection = false := by
  unfold perform at h
  cases hrequest : client.request asked with
  | error failure =>
      rw [hrequest] at h
      obtain rfl := Except.error.inj h
      exact request_not_rejection hrequest
  | ok written =>
      rw [hrequest] at h
      dsimp only [bind, Except.bind] at h
      split at h
      · obtain rfl := Except.error.inj h
        rfl
      · exact answer_not_rejection h

end Cluster.Client

namespace Program

variable {α β : Type} {program : Program α}

/-- A program that rejects nothing: it makes the calls of a list, or makes none and ends in an error
of another kind. -/
inductive Accepts : Program α → Prop
  | straight {value : α} {calls : List Call} {program : Program α}
      (h : Straight value calls program) : Accepts program
  | unreached {error : Error} (h : error.isRejection = false) : Accepts (.done (.error error))

/-- So does the program with its result taken further. -/
theorem Accepts.next (h : program.Accepts) (f : α → β) :
    (program >>= fun value => .done (.ok (f value))).Accepts := by
  cases h with
  | straight h => exact .straight (h.bind .done)
  | unreached h => exact .unreached h

/-- A run of such a program ends in a rejection only if the cluster answers with this rejection. -/
theorem Accepts.run {σ : Type} {world : World σ} {operation : String} {state : σ} {error : Error}
    (h : program.Accepts) (hresult : (program.run world operation state).1 = .error error)
    (herror : error.isRejection) :
    ∃ request, ⟨.cluster request, .failed error⟩ ∈ program.exchanges world operation state := by
  cases h with
  | unreached h =>
      obtain rfl := Except.error.inj hresult
      cases h.symm.trans herror
  | straight h =>
      obtain ⟨before, last, hmade, -, hlast⟩ :=
        (h.follows world operation state).stopped error hresult
      obtain ⟨request, rfl⟩ := Exchange.of_rejection hlast herror
      exact ⟨request, hmade ▸ List.mem_append_right before (List.mem_singleton_self _)⟩

end Program

namespace Broker

variable {broker : Broker} {inventory : Inventory}
  (hdirectory : broker.directory = inventory.directory) (nodeId : String)
include hdirectory

/-- What stands in the way to a node of an inventory is no rejection. -/
theorem route_not_rejection {surface : Agent.Surface} {error : Error}
    (h : broker.route nodeId surface = .error error) : error.isRejection = false := by
  rcases route_error h with hhost | ⟨cause, rfl⟩
  · have htargets : broker.directory.targets nodeId = .ok (inventory.targetsOf nodeId) := by
      rw [hdirectory]
      rfl
    rw [resolve, htargets] at hhost
    match inventory.targetsOf nodeId, hhost with
    | [], hhost =>
        obtain rfl := Except.error.inj hhost
        rfl
    | _ :: _ :: _, hhost =>
        obtain rfl := Except.error.inj hhost
        rfl
  · rfl

/-- A request is sent over a connection of its own, or the node cannot be found. -/
theorem send_accepts (context : String) (request : Agent.Request) (answer : request.Answer)
    (hanswer : ∀ other, other = answer) : (broker.send nodeId context request).Accepts := by
  cases hroute : broker.route nodeId request.surface with
  | error error =>
      rw [send, connect_unrouted hroute]
      exact .unreached (broker.route_not_rejection hdirectory nodeId hroute)
  | ok route =>
      have hstraight : Program.Straight answer
          [.dial nodeId route, .agent nodeId context request]
          (broker.send nodeId context request) := by
        rw [send, connect_routed hroute, Program.proceed_bind]
        refine .proceed fun _ => .proceed fun other => ?_
        rw [hanswer other]
        exact .done
      exact .straight hstraight

end Broker

/-! ### What an inventory gives -/

namespace Inventory

/-- What is asked of a controller with what an inventory gives. Workloads are handed to nodes, and
policies are of the kind that the mode takes; what a policy is for must have an ID. -/
inductive Offers (inventory : Inventory) (mode : Mode) : Job → Prop
  | deploy {id : String} {workload : Workload} (hmode : mode = .native)
      (h : inventory.workload id = .ok workload) :
      Offers inventory mode (.action (.deploy workload))
  | redeploy {id : String} {workload : Workload} (hmode : mode = .native)
      (h : inventory.workload id = .ok workload) :
      Offers inventory mode (.action (.redeploy workload))
  | policy {id : String} {payload : PolicyPayload} {ref : WorkloadRef}
      (h : inventory.policy id = .ok payload) (hkind : payload.kind = mode.policyKind)
      (href : ref.id ≠ "") : Offers inventory mode (.setPolicy ref payload)
  | interfacePolicy {id interface : String} {policy : TrafficPolicy}
      (h : inventory.nativePolicy id = .ok policy) :
      Offers inventory mode (.setInterfacePolicy interface policy)
  | dns {id : String} {config : DnsConfig} (change : DnsChange)
      (h : inventory.dnsConfig id = .ok config) :
      Offers inventory mode (.changeDns change config (inventory.dnsAliasesOf id))

variable {inventory : Inventory} {records : List Record}
  (hrecords : ofRecords records = .ok inventory)
include hrecords

/-- What is found by its ID has passed its check. -/
theorem Table.check_of_find {α : Type} (kept : Table α) {id : String} {item : α}
    (h : (kept.items inventory).find? (fun found => kept.idOf found == id) = some item) :
    (kept.record item).check = .ok () :=
  kept.check_of_mem hrecords (List.mem_of_find?_eq_some h)

omit hrecords in
/-- What is found is the first item with the ID. -/
theorem find_ok {α : Type} {idOf : α → String} {missing : Missing} {id : String}
    {items : List α} {item : α} (h : find idOf missing id items = .ok item) :
    items.find? (fun other => idOf other == id) = some item := by
  unfold find at h
  split at h
  · next found hfound =>
      obtain rfl := Except.ok.inj h
      exact hfound
  · cases h

omit hrecords in
/-- A native policy is the policy with its ID. -/
theorem native_policy_iff {id : String} {policy : TrafficPolicy} :
    inventory.nativePolicy id = .ok policy ↔ inventory.policy id = .ok (.native policy) := by
  rw [nativePolicy, Inventory.policy, find]
  cases inventory.trafficPolicies.find? fun other => other.id == id with
  | some found => constructor <;> intro h <;> cases h <;> rfl
  | none =>
      constructor <;> intro h
      · cases h
      · cases hcluster : find ClusterPolicy.id (.policy id) id inventory.clusterPolicies <;>
          rw [hcluster] at h <;> cases h

/-- A workload that is found has passed its check. -/
theorem workload_check {id : String} {workload : Workload}
    (h : inventory.workload id = .ok workload) : workload.check = .ok () := by
  unfold Inventory.workload at h
  split at h
  · next app happ =>
      obtain rfl := Except.ok.inj h
      exact Table.apps.check_of_find hrecords happ
  · cases hvnf : find Vnf.id (.workload id) id inventory.vnfs with
    | error error =>
        rw [hvnf] at h
        cases h
    | ok vnf =>
        rw [hvnf] at h
        obtain rfl := Except.ok.inj h
        exact Table.vnfs.check_of_find hrecords (find_ok hvnf)

/-- So has a policy. -/
theorem policy_check {id : String} {payload : PolicyPayload}
    (h : inventory.policy id = .ok payload) : payload.check = .ok () := by
  unfold Inventory.policy at h
  split at h
  · next policy hpolicy =>
      obtain rfl := Except.ok.inj h
      exact Table.trafficPolicies.check_of_find hrecords hpolicy
  · cases hpolicy : find ClusterPolicy.id (.policy id) id inventory.clusterPolicies with
    | error error =>
        rw [hpolicy] at h
        cases h
    | ok policy =>
        rw [hpolicy] at h
        obtain rfl := Except.ok.inj h
        exact Table.clusterPolicies.check_of_find hrecords (find_ok hpolicy)

/-- A DNS configuration may be applied and removed with its aliases. -/
theorem dns_passes {id : String} {config : DnsConfig} (h : inventory.dnsConfig id = .ok config)
    (change : DnsChange) : change.Passes config (inventory.dnsAliasesOf id) where
  config_ok _ := Table.dnsConfigs.check_of_find hrecords (find_ok h)
  aliases_ok entry hentry := by
    obtain ⟨hmem, hid⟩ := List.mem_filter.1 hentry
    have hconfig : config.id = id := by simpa using List.find?_some (find_ok h)
    exact ⟨Table.dnsAliases.check_of_mem hrecords hmem, (eq_of_beq hid).trans hconfig.symm⟩

end Inventory

/-! ### What is asked -/

namespace Controller

variable {settings : Settings} {broker : Broker} {hasCluster : Bool} {controller : Controller}
  {inventory : Inventory} {records : List Record}

/-- Pushing a policy that passes its check to a node of an inventory rejects nothing. -/
theorem push_policy_accepts (hdirectory : broker.directory = inventory.directory) (nodeId : String)
    (ref : WorkloadRef) {policy : TrafficPolicy} (h : policy.check = .ok ()) :
    (Native.pushPolicy broker nodeId ref (some policy)).Accepts := by
  obtain ⟨message, hmessage⟩ := Agent.Policy.of_traffic_ok ref.id h
  have htranslated : Agent.Policy.ofTraffic? ref.id (some policy) = .ok message := hmessage
  simp only [Native.pushPolicy, htranslated, Program.monad_lift_eq]
  exact Broker.send_accepts hdirectory nodeId _ (.setPolicy message) () fun _ => rfl

/-- Neither does setting a policy that passes its check in the cluster. -/
theorem set_network_policy_accepts (placing : Cluster.Placing)
    (hdirectory : placing.directory = inventory.directory)
    (hroute : placing.policies = .networkPolicy) (nodeId : String) (ref : WorkloadRef)
    {policy : ClusterPolicy} (h : policy.check = .ok ()) :
    (placing.setPolicy nodeId ref (.cluster policy)).Accepts := by
  have hnode : placing.directory.node nodeId = .ok (inventory.node? nodeId) := by
    rw [hdirectory]
    rfl
  cases hfound : inventory.node? nodeId with
  | none =>
      have hserial : placing.serial nodeId = .error (.notFound (.node nodeId)) := by
        rw [Cluster.Placing.serial, hnode, hfound]
        rfl
      simp only [Cluster.Placing.setPolicy, hroute, hserial]
      exact .unreached rfl
  | some node =>
      have hserial := Cluster.Placing.serial_eq (hfound ▸ hnode)
      obtain ⟨object, hobject⟩ := Cluster.NetworkPolicy.of_policy_ok
        (Cluster.networkPolicyName ref.id node.serial) placing.namespaceName
        [(Cluster.podLabel, Cluster.appLabel ref.id node.serial)] h
      have hpolicy : placing.policyFor ref.id node.serial (.cluster policy) = .ok object := hobject
      rw [Cluster.Placing.set_policy_calls hserial ref hroute hpolicy]
      exact .straight (.proceed fun _ => .done)

/-- Nor does setting the policy of an interface. Where nodes enforce none, it fails for this. -/
theorem push_interface_policy_accepts (controller : Controller)
    (hdirectory : controller.broker.directory = inventory.directory) (nodeId interface : String)
    {policy : TrafficPolicy} (h : policy.check = .ok ()) :
    (controller.pushInterfacePolicy nodeId interface (some policy)).Accepts := by
  obtain ⟨message, hmessage⟩ := Agent.Policy.of_traffic_ok interface h
  have htranslated : Agent.Policy.ofTraffic? interface (some policy) = .ok message := hmessage
  unfold pushInterfacePolicy checkInterfacePolicies
  by_cases hmode : controller.mode = .kubernetesOvn
  · rw [if_pos hmode]
    exact .unreached rfl
  · rw [if_neg hmode, htranslated]
    exact Broker.send_accepts hdirectory nodeId _ (.setInterfacePolicy message) () fun _ => rfl

/-- Nor does pushing a DNS configuration that may be pushed. -/
theorem change_dns_accepts (controller : Controller)
    (hdirectory : controller.broker.directory = inventory.directory) (nodeId : String)
    {change : DnsChange} {config : DnsConfig} {aliases : List DnsAlias}
    (h : change.Passes config aliases) :
    (controller.changeDns change nodeId config aliases).program.Accepts := by
  rw [controller.change_dns_passed nodeId h]
  cases hroute : controller.broker.route nodeId .ela with
  | error error =>
      rw [Broker.connect_unrouted hroute]
      exact .unreached (Broker.route_not_rejection hdirectory nodeId hroute)
  | ok route =>
      rw [Broker.connect_routed hroute, Program.proceed_bind]
      have hstraight := change.push_straight nodeId config aliases
      exact .straight (.proceed fun _ => hstraight)

/-- Nothing that an inventory offers is rejected. -/
theorem perform_accepts (hrecords : Inventory.ofRecords records = .ok inventory)
    (hcontroller : ofSettings settings broker hasCluster = .ok controller)
    (hdirectory : broker.directory = inventory.directory) (nodeId : String) {job : Job}
    (hjob : inventory.Offers settings.mode job) :
    (controller.perform nodeId job).program.Accepts := by
  obtain rfl := of_settings_ok hcontroller
  cases hjob with
  | @deploy id workload hmode h =>
      have hcheck := Inventory.workload_check hrecords h
      have hsend := Broker.send_accepts hdirectory nodeId
        s!"deploy {workload.ref.name} on node {nodeId}"
        (.deploy workload.packaging (.ofWorkload workload)) () fun _ => rfl
      simp only [perform, carryOut, Operation.map, deploy, hcheck, hmode, backendOf, Native.backend,
        Program.check_ok, Program.monad_lift_eq, Program.done_ok_bind, Program.pure_eq,
        Program.map_eq]
      exact ((hsend.next _).next _).next _
  | @redeploy id workload hmode h =>
      have hcheck := Inventory.workload_check hrecords h
      have hsend := Broker.send_accepts hdirectory nodeId
        s!"redeploy {workload.ref.name} on node {nodeId}"
        (.redeploy (.ofWorkload workload)) () fun _ => rfl
      simp only [perform, carryOut, Operation.map, redeploy, hcheck, hmode, backendOf,
        Native.backend, Program.check_ok, Program.monad_lift_eq, Program.map_eq]
      exact (hsend.next _).next _
  | @policy id payload ref h hkind href =>
      have hcheck := Inventory.policy_check hrecords h
      simp only [perform, setPolicy, check_ref_ok href, checkKind, hkind, hcheck, if_true,
        Program.check_ok, Program.monad_lift_eq, Program.done_ok_bind]
      -- The kind of the policy leaves the modes that take it, and the mode says where it goes.
      cases payload with
      | native policy =>
          have hpush := push_policy_accepts hdirectory nodeId ref hcheck
          cases hmode : settings.mode with
          | native => exact hpush
          | kubernetes => exact hpush
          | kubernetesOvn => simp [hmode, PolicyPayload.kind, Mode.policyKind] at hkind
      | cluster policy =>
          cases hmode : settings.mode with
          | kubernetesOvn =>
              exact set_network_policy_accepts (placing settings broker .networkPolicy) hdirectory
                rfl nodeId ref hcheck
          | _ => simp [hmode, PolicyPayload.kind, Mode.policyKind] at hkind
  | @interfacePolicy id interface policy h =>
      have hcheck := Inventory.policy_check hrecords (Inventory.native_policy_iff.1 h)
      exact push_interface_policy_accepts _ hdirectory nodeId interface hcheck
  | dns change h =>
      exact change_dns_accepts _ hdirectory nodeId (Inventory.dns_passes hrecords h change)

end Controller

/-- Of what an inventory offers, only a policy for the cluster takes a request to the cluster. -/
theorem Inventory.Offers.mode_of_cluster {inventory : Inventory} {mode : Mode} {job : Job}
    (hjob : inventory.Offers mode job) {request : Cluster.Request}
    (hreached : (Call.cluster request).destination ∈ mode.reached job) : mode = .kubernetesOvn := by
  have hdestination (surface : Agent.Surface) :
      (Call.cluster request).destination ≠ .node surface := by
    cases request <;> nofun
  cases hjob with
  | deploy hmode h =>
      subst hmode
      exact absurd (List.mem_singleton.1 hreached) (hdestination _)
  | redeploy hmode h =>
      subst hmode
      exact absurd (List.mem_singleton.1 hreached) (hdestination _)
  | policy h hkind href =>
      cases mode with
      | kubernetesOvn => rfl
      | _ => exact absurd (List.mem_singleton.1 hreached) (hdestination _)
  | interfacePolicy h =>
      by_contra hmode
      rw [Mode.reached, if_neg hmode] at hreached
      exact hdestination _ (List.mem_singleton.1 hreached)
  | dns change h => exact absurd (List.mem_singleton.1 hreached) (hdestination _)

/-- Whatever an inventory gives is accepted, by any node that answers as it likes: workloads that
are deployed or replaced in the native mode, policies that are set in a mode that takes their kind
or for an interface, and DNS configurations that are applied or removed with their aliases. An error
of such a job is no rejection, unless a policy was set in the cluster and the cluster itself has
answered with this very rejection, which no client of a cluster ever does. -/
theorem admitted_not_rejected {records : List Record} {inventory : Inventory} {settings : Settings}
    {broker : Broker} {hasCluster : Bool} {controller : Controller}
    (hrecords : Inventory.ofRecords records = .ok inventory)
    (hcontroller : Controller.ofSettings settings broker hasCluster = .ok controller)
    (hdirectory : broker.directory = inventory.directory) {job : Job}
    (hjob : inventory.Offers settings.mode job) {σ : Type} (world : World σ) (state : σ)
    (nodeId : String) {error : Error}
    (herror : ((controller.perform nodeId job).run world state).1 = .error error) :
    error.isRejection = false ∨
      settings.mode = .kubernetesOvn ∧ ∃ request,
        ⟨.cluster request, .failed error⟩ ∈
          (controller.perform nodeId job).program.exchanges world job.title state ∧
        ∀ (client : Cluster.Client) service, client.perform service request ≠ .error error := by
  cases hrejection : error.isRejection with
  | false => exact .inl rfl
  | true =>
      have haccepts := Controller.perform_accepts hrecords hcontroller hdirectory nodeId hjob
      rw [Operation.run, controller.perform_name] at herror
      obtain ⟨request, hrequest⟩ := haccepts.run herror hrejection
      have hreached := (Controller.perform_reaches hcontroller nodeId job).exchanges world job.title
        state _ hrequest
      refine .inr ⟨hjob.mode_of_cluster hreached, request, hrequest, ?_⟩
      intro client service hanswer
      cases hrejection.symm.trans (Cluster.Client.perform_not_rejection hanswer)

namespace Sample

/-- The address of the first node. -/
def address : NodeTarget :=
  ⟨"5a0b1c2d-3e4f-4a5b-8c6d-7e8f9a0b1c2d", node.id, "192.0.2.7"⟩

/-- An inventory of the first node with its address, the application and where it is published. -/
def office : Inventory :=
  ⟨[node], [address], [app], [], [], [], [zone], [published]⟩

/-- Reaches the nodes of the inventory. -/
def officeBroker : Broker :=
  .ofSettings .standard office.directory library none

/-- A node that finds fault with what it is sent. -/
def faultfinding : Script :=
  { script bare [] with nodeReplies := [.refuse ⟨.invalidArgument, "bad record"⟩] }

end Sample

open Sample in
/-- A node may say that a record is invalid: this is an error of the call, and no rejection. -/
theorem admitted_not_rejected_zone :
    let push := (⟨.native, officeBroker, Native.backend officeBroker⟩ : Controller).perform node.id
      (.changeDns .apply zone (office.dnsAliasesOf zone.id))
    ∃ error, (push.run Script.world faultfinding).1 = .error error ∧
      error.isRejection = false := by
  intro push
  have hrecords : Inventory.ofRecords [.node node, .target address, .app app, .dnsAlias published,
      .dnsConfig zone] = .ok office := by
    decide +kernel
  have hoffers : office.Offers .native
      (.changeDns .apply zone (office.dnsAliasesOf zone.id)) :=
    .dns .apply (by decide +kernel)
  have hfails : (push.run Script.world faultfinding).1.isOk = false := by decide +kernel
  cases hresult : (push.run Script.world faultfinding).1 with
  | ok value =>
      rw [hresult] at hfails
      cases hfails
  | error error =>
      refine ⟨error, rfl, ?_⟩
      have hcontroller : Controller.ofSettings .standard officeBroker false =
          .ok ⟨.native, officeBroker, Native.backend officeBroker⟩ := rfl
      rcases admitted_not_rejected hrecords hcontroller rfl hoffers Script.world faultfinding
        node.id hresult with hrejection | ⟨hmode, -⟩
      · exact hrejection
      · cases hmode

end EdgeFleet
