import EdgeFleet.Proofs.Broker.Route
import EdgeFleet.Proofs.Orchestration.Backends
import EdgeFleet.Proofs.Orchestration.Objects
import EdgeFleet.Proofs.Orchestration.PolicyHistory

/-!
# Where calls go

The mode of a controller decides for every job whether its calls go to a surface of a node, to the
deployments of the cluster or to its network policies. `Mode.reached` is the table, and
`Controller.perform_reaches` says that no program of a controller makes any other call. The main
result, `calls_follow_mode`, draws the conclusions for whole runs in any world: which surface is
connected to, when a node hears of an undeployed workload, and what is refused without any call.
-/

namespace EdgeFleet

/-- Where a call goes. -/
inductive Destination where
  /-- What keeps the hosts of nodes for later connections. -/
  | registry
  /-- A surface of a node, to connect to it or with a request over a connection. -/
  | node (surface : Agent.Surface)
  /-- The machines and the deployments of the cluster. -/
  | deployments
  /-- The network policies of the cluster. -/
  | policies
  deriving DecidableEq

/-- Where a call goes. -/
def Call.destination : Call → Destination
  | .register _ => .registry
  | .dial _ route => .node route.surface
  | .agent _ _ request => .node request.surface
  | .cluster (.applyNetworkPolicy _) | .cluster (.deleteNetworkPolicy _) => .policies
  | .cluster _ => .deployments

/-- Whether a job is about what runs on a node. -/
def Job.isLifecycle : Job → Bool
  | .action _ | .status _ => true
  | _ => false

/-- Whether a job is about the policy of an interface. -/
def Job.isInterfacePolicy : Job → Bool
  | .setInterfacePolicy _ _ | .deleteInterfacePolicy _ => true
  | _ => false

namespace Mode

/-- Where workloads run. -/
def runs : Mode → Destination
  | .native => .node .eva
  | .kubernetes | .kubernetesOvn => .deployments

/-- Where the policies of workloads are enforced. -/
def enforces : Mode → Destination
  | .native | .kubernetes => .node .ela
  | .kubernetesOvn => .policies

/-- Where the calls of a job may go. A node drops the policy of a workload together with it, so that
undeploying takes a second destination only where workloads run in the cluster. -/
def reached (mode : Mode) : Job → List Destination
  | .action (.undeploy _) => if mode.usesCluster then [mode.runs, mode.enforces] else [mode.runs]
  | .action _ | .status _ => [mode.runs]
  | .setPolicy _ _ | .deletePolicy _ => [mode.enforces]
  | .setInterfacePolicy _ _ | .deleteInterfacePolicy _ =>
    if mode = .kubernetesOvn then [] else [.node .ela]
  | .changeDns _ _ _ | .interfaces | .interface _ | .updateInterface _ | .updateInterfaces _ =>
    [.node .ela]
  | .register => [.registry]

/-- Which policies a mode does not take: nodes enforce no policies for the cluster, and the cluster
enforces none for nodes. -/
inductive Bars : Mode → PolicyPayload → Prop
  | native (policy : ClusterPolicy) : Bars .native (.cluster policy)
  | kubernetes (policy : ClusterPolicy) : Bars .kubernetes (.cluster policy)
  | kubernetesOvn (policy : TrafficPolicy) : Bars .kubernetesOvn (.native policy)

/-- Such a policy is not of the kind that the mode takes. -/
theorem Bars.kind_ne {mode : Mode} {payload : PolicyPayload} (h : mode.Bars payload) :
    payload.kind ≠ mode.policyKind := by
  cases h <;> simp [PolicyPayload.kind, policyKind]

end Mode

namespace Program

variable {α : Type} {destinations : List Destination}

/-- A program all of whose calls go to some destinations. -/
abbrev Reaches (destinations : List Destination) (program : Program α) : Prop :=
  program.Only fun call => call.destination ∈ destinations

end Program

namespace Broker

variable (broker : Broker) (nodeId : String) {destinations : List Destination}

/-- Telling a node something goes to the surface that takes it. -/
theorem Tells.destination_eq {request : Agent.Request} {call : Call}
    (h : broker.Tells nodeId request call) : call.destination = .node request.surface := by
  cases h with
  | dial hroute => rw [Call.destination, surface_of_route hroute]
  | send context => rfl

end Broker

namespace Cluster

/-- Where the policies of workloads go. -/
def PolicyRoute.destination : PolicyRoute → Destination
  | .node _ => .node .ela
  | .networkPolicy => .policies

end Cluster

/-- The calls for a job that a node carries out go where the native mode says. -/
theorem Native.makes_reaches {broker : Broker} {nodeId : String} {job : Job} {call : Call}
    (h : Makes broker nodeId job call) : call.destination ∈ Mode.native.reached job := by
  obtain ⟨request, hsends, hcall⟩ := h
  rw [hcall.destination_eq]
  cases hsends <;> exact List.mem_singleton_self _

/-- The calls for a job on a workload that is kept in the cluster go where a mode says that leaves
policies to the same place. -/
theorem Cluster.Placing.Makes.reaches {placing : Placing} {mode : Mode}
    (hcluster : mode.usesCluster) (henforces : mode.enforces = placing.policies.destination)
    {nodeId : String} {job : Job} {call : Call} (h : placing.Makes nodeId job call) :
    call.destination ∈ mode.reached job := by
  have hruns : mode.runs = .deployments := by
    cases mode with
    | native => cases hcluster
    | _ => rfl
  induction h with
  | count _ | create _ | fetchToRedeploy _ | apply _ | fetchToCommand _ | scale _ _
  | fetchStatus _ => exact List.mem_singleton.2 hruns.symm
  | delete _ =>
      rw [Mode.reached, if_pos hcluster, hruns]
      exact List.mem_cons_self
  | clear _ ih =>
      rw [Mode.reached, if_pos hcluster]
      exact List.mem_cons_of_mem _ ih
  | applyPolicy hroute _ _ | deletePolicy hroute _ =>
      rw [hroute] at henforces
      exact List.mem_singleton.2 henforces.symm
  | setOnNode hroute h | deleteOnNode hroute h =>
      rw [hroute] at henforces
      exact List.mem_singleton.2 ((List.mem_singleton.1 (Native.makes_reaches h)).trans
        henforces.symm)

namespace Controller

variable {settings : Settings} {broker : Broker} {hasCluster : Bool} {controller : Controller}

/-- The backend of a mode reaches what the mode says. -/
theorem backend_of_reaches (settings : Settings) (broker : Broker) (mode : Mode)
    (nodeId : String) :
    (backendOf settings broker mode).Only nodeId fun job call =>
      call.destination ∈ mode.reached job := by
  cases mode with
  | native => exact (Native.backend_only broker nodeId).mono fun _ _ => Native.makes_reaches
  | kubernetes =>
      exact ((placing settings broker (.node broker)).backend_only nodeId).mono fun _ _ h =>
        h.reaches rfl rfl
  | kubernetesOvn =>
      exact ((placing settings broker .networkPolicy).backend_only nodeId).mono fun _ _ h =>
        h.reaches rfl rfl

/-- Where the cluster enforces policies, nothing is done for the policy of an interface. -/
theorem push_interface_policy_refused (hmode : controller.mode = .kubernetesOvn)
    (nodeId interface : String) (policy : Option TrafficPolicy) :
    controller.pushInterfacePolicy nodeId interface policy =
      .done (.error (.failedPrecondition .interfacePolicies)) := by
  simp only [pushInterfacePolicy, checkInterfacePolicies, hmode, if_true, Program.monad_lift_eq,
    Program.done_error_bind]

/-- So a job for the policy of an interface fails before its first call. -/
theorem perform_interface_refused (hmode : controller.mode = .kubernetesOvn) (nodeId : String)
    {job : Job} (hjob : job.isInterfacePolicy) :
    (controller.perform nodeId job).program =
      .done (.error (.failedPrecondition .interfacePolicies)) := by
  cases job with
  | setInterfacePolicy interface policy => exact push_interface_policy_refused hmode _ _ _
  | deleteInterfacePolicy interface => exact push_interface_policy_refused hmode _ _ _
  | _ => cases hjob

/-- The calls that a controller makes for a job go where its mode says. -/
theorem perform_reaches (hcontroller : ofSettings settings broker hasCluster = .ok controller)
    (nodeId : String) (job : Job) :
    (controller.perform nodeId job).program.Reaches (settings.mode.reached job) := by
  obtain rfl := of_settings_ok hcontroller
  have hbackend := backend_of_reaches settings broker settings.mode nodeId
  refine perform_only ⟨settings.mode, broker, _⟩ hbackend (fun h => ?_) job
  cases h with
  | register host => exact List.mem_singleton_self _
  | connect hroute =>
      rw [Call.destination, Broker.surface_of_route hroute]
      exact List.mem_singleton_self _
  | tell hsends hcall =>
      rw [hcall.destination_eq]
      cases hsends with
      | setInterfacePolicy hmode _ | deleteInterfacePolicy hmode _ =>
          rw [Mode.reached, if_neg hmode]
          exact List.mem_singleton_self _
      | record change _ _ _ | forwarders change _ _ =>
          cases change <;> exact List.mem_singleton_self _
      | _ => exact List.mem_singleton_self _

/-- Undeploying from the cluster fails before its first call, or first deletes the deployment and
goes on only if there was one. -/
theorem perform_undeploy_cases {placing : Cluster.Placing}
    (hbackend : controller.backend = placing.backend) (nodeId : String) (ref : WorkloadRef) :
    (∃ error, (controller.perform nodeId (.action (.undeploy ref))).program =
        .done (.error error)) ∨
      ∃ node rest error, placing.directory.node nodeId = .ok (some node) ∧
        (controller.perform nodeId (.action (.undeploy ref))).program =
          .proceed (.cluster (.deleteDeployment (Cluster.deploymentName ref.id node.serial)))
            fun (existed : Bool) => if existed then rest else .done (.error error) := by
  simp only [perform, carryOut, Operation.map, undeploy, hbackend, Cluster.Placing.backend,
    Program.map_eq, Program.monad_lift_eq]
  cases hcheck : checkRef ref with
  | error error => exact .inl ⟨error, rfl⟩
  | ok =>
      rcases placing.serial_cases nodeId with ⟨error, herror⟩ | ⟨node, hnode, hserial⟩
      · exact .inl ⟨error, by simp only [Cluster.Placing.undeploy, herror]; rfl⟩
      · refine .inr ⟨node, placing.deletePolicy nodeId ref >>= fun _ => .done (.ok ()),
          .notFound (.deploymentOf (Cluster.deploymentName ref.id node.serial) ref), hnode, ?_⟩
        simp only [Cluster.Placing.undeploy_calls hserial, Program.done_ok_bind,
          Program.proceed_bind]
        refine congrArg (Program.proceed _) (funext fun (existed : Bool) => ?_)
        cases existed with
        | false => rfl
        | true => simp only [if_true, Program.bind_assoc, Program.done_ok_bind]

/-- A policy of the wrong kind is refused before any call. -/
theorem set_policy_refused (hcontroller : ofSettings settings broker hasCluster = .ok controller)
    (nodeId : String) (ref : WorkloadRef) {payload : PolicyPayload}
    (hbars : settings.mode.Bars payload) :
    ∃ cause, (controller.perform nodeId (.setPolicy ref payload)).program =
      .done (.error (.validation cause)) := by
  have hrefused : controller.checkKind payload =
      .error (.validation (.policyKind payload.kind controller.mode)) := by
    simp only [checkKind, mode_of_settings hcontroller, hbars.kind_ne, if_false]
  cases hcheck : checkRef ref with
  | ok => exact ⟨_, by simp only [perform, setPolicy, hcheck, hrefused]; rfl⟩
  | error error =>
      -- An ID that is empty is refused even before.
      unfold checkRef at hcheck
      split at hcheck
      · next hempty =>
          exact ⟨.emptyId ref.family, by simp only [perform, setPolicy, checkRef, hempty]; rfl⟩
      · cases hcheck

end Controller

/-- A job that was asked for on a node, how it ended, and the calls it made with how they ended. -/
structure Entry extends Event where
  exchanges : List Exchange

namespace Entry

/-- The calls that a job made. -/
def calls (entry : Entry) : List Call :=
  entry.exchanges.map (·.call)

/-- A job undeployed a workload: its first call has deleted the deployment of the workload. -/
def Undeployed (entry : Entry) (directory : Directory) : Prop :=
  ∃ ref node rest, entry.job = .action (.undeploy ref) ∧
    directory.node entry.nodeId = .ok (some node) ∧
    entry.exchanges =
      ⟨.cluster (.deleteDeployment (Cluster.deploymentName ref.id node.serial)),
        .answered true⟩ :: rest

end Entry

/-- Carries jobs on nodes out one after another in a world, and records what each of them did. -/
def Controller.journal {σ : Type} (controller : Controller) (world : World σ) :
    List (String × Job) → σ → List Entry
  | [], _ => []
  | (nodeId, job) :: rest, state =>
    let operation := controller.perform nodeId job
    let (result, next) := operation.run world state
    ⟨⟨nodeId, job, result⟩, operation.program.exchanges world operation.name state⟩ ::
      controller.journal world rest next

/-- What the mode of a controller promises of a job that was done. -/
structure Mode.Routes (mode : Mode) (directory : Directory) (entry : Entry) : Prop where
  /-- In the native mode the cluster hears of nothing. -/
  native_cluster : mode = .native → ∀ call ∈ entry.calls,
    call.destination ≠ .deployments ∧ call.destination ≠ .policies
  /-- In the native mode one surface is for what runs on the node, and the other for all else. -/
  native_surface : mode = .native → ∀ call ∈ entry.calls, ∀ surface,
    call.destination = .node surface → surface = if entry.job.isLifecycle then .eva else .ela
  /-- Where workloads run in the cluster, the surface for workloads is not used. -/
  cluster_surface : mode.usesCluster → ∀ call ∈ entry.calls, call.destination ≠ .node .eva
  /-- Where nodes enforce policies, the cluster hears of none. -/
  kubernetes_policies : mode = .kubernetes → ∀ call ∈ entry.calls, call.destination ≠ .policies
  /-- Then a node hears of what runs on it only after it was undeployed. -/
  kubernetes_nodes : mode = .kubernetes → entry.job.isLifecycle → ∀ call ∈ entry.calls,
    ∀ surface, call.destination = .node surface → entry.Undeployed directory
  /-- Where the cluster enforces policies, a node hears neither of workloads nor of policies. -/
  ovn_nodes : mode = .kubernetesOvn → entry.job.workloadId?.isSome → ∀ call ∈ entry.calls,
    ∀ surface, call.destination ≠ .node surface
  /-- Then the policies of interfaces are refused without a call. -/
  ovn_interfaces : mode = .kubernetesOvn → entry.job.isInterfacePolicy →
    entry.calls = [] ∧ ∃ cause, entry.result = .error (.failedPrecondition cause)
  /-- In every mode, policies of the wrong kind are refused without a call. -/
  kinds : ∀ ref payload, entry.job = .setPolicy ref payload → mode.Bars payload →
    entry.calls = [] ∧ ∃ cause, entry.result = .error (.validation cause)

namespace Mode

variable {mode : Mode} {job : Job} {surface : Agent.Surface}

/-- In the native mode, nothing but nodes is reached, and one surface of them only. -/
theorem native_reached {destination : Destination} (h : destination ∈ Mode.native.reached job) :
    destination = .registry ∨ destination = .node (if job.isLifecycle then .eva else .ela) := by
  cases job with
  | action action => cases action <;> exact .inr (List.mem_singleton.1 h)
  | register => exact .inl (List.mem_singleton.1 h)
  | _ => exact .inr (List.mem_singleton.1 h)

/-- Where workloads run in the cluster, the surface for workloads is not reached. -/
theorem eva_not_reached (h : mode.usesCluster) : .node .eva ∉ mode.reached job := by
  cases mode with
  | native => cases h
  | _ =>
      cases job with
      | action action => cases action <;> simp [reached, runs, enforces, usesCluster]
      | _ => simp [reached, runs, enforces]

/-- Where nodes enforce policies, no network policies are reached. -/
theorem policies_not_reached : .policies ∉ Mode.kubernetes.reached job := by
  cases job with
  | action action => cases action <;> simp [reached, runs, enforces, usesCluster]
  | _ => simp [reached, runs, enforces]

/-- There, of all jobs about what runs on a node only undeploying reaches the node. -/
theorem undeploy_of_reached (hjob : job.isLifecycle)
    (h : .node surface ∈ Mode.kubernetes.reached job) : ∃ ref, job = .action (.undeploy ref) := by
  cases job with
  | action action =>
      cases action with
      | undeploy ref => exact ⟨ref, rfl⟩
      | _ => simp [reached, runs] at h
  | status ref => simp [reached, runs] at h
  | _ => cases hjob

/-- Where the cluster enforces policies, no job about a workload reaches a node. -/
theorem node_not_reached (hjob : job.workloadId?.isSome) :
    .node surface ∉ Mode.kubernetesOvn.reached job := by
  cases job with
  | action action => cases action <;> simp [reached, runs, enforces, usesCluster]
  | status ref => simp [reached, runs]
  | setPolicy ref payload => simp [reached, enforces]
  | deletePolicy ref => simp [reached, enforces]
  | _ => cases hjob

end Mode

namespace Controller

variable {σ : Type} {settings : Settings} {broker : Broker} {hasCluster : Bool}
  {controller : Controller} (hcontroller : ofSettings settings broker hasCluster = .ok controller)
include hcontroller

/-- In the mode in which nodes enforce policies, undeploying says nothing to a node before it has
deleted the deployment. -/
theorem undeploy_tells_after (hmode : settings.mode = .kubernetes) (world : World σ)
    (nodeId : String) (ref : WorkloadRef) (state : σ) (result : Except Error Unit) {call : Call}
    {surface : Agent.Surface} (hsurface : call.destination = .node surface) :
    let operation := controller.perform nodeId (.action (.undeploy ref))
    let entry : Entry := ⟨⟨nodeId, .action (.undeploy ref), result⟩,
      operation.program.exchanges world operation.name state⟩
    call ∈ entry.calls → entry.Undeployed broker.directory := by
  intro operation entry hcall
  obtain ⟨route, hbackend⟩ := backend_of_cluster_mode (by rw [hmode]; rfl) hcontroller
  obtain ⟨exchange, hexchange, rfl⟩ := List.mem_map.1 hcall
  rcases perform_undeploy_cases hbackend nodeId ref with
    ⟨error, hprogram⟩ | ⟨node, rest, error, hnode, hprogram⟩
  · have hnone : entry.exchanges = [] := by
      simp only [entry, operation, hprogram, Program.exchanges_done]
    rw [hnone] at hexchange
    cases hexchange
  · have hmade := congrArg (·.exchanges world operation.name state) hprogram
    simp only [Program.exchanges_proceed] at hmade
    -- Unless the deployment was found, its deletion is the only call.
    have honly : ∀ outcome, entry.exchanges =
        [⟨.cluster (.deleteDeployment (Cluster.deploymentName ref.id node.serial)), outcome⟩] →
          entry.Undeployed broker.directory := by
      intro outcome hsingle
      rw [hsingle, List.mem_singleton] at hexchange
      rw [hexchange] at hsurface
      cases hsurface
    cases hanswer : world.answer state
        (.cluster (.deleteDeployment (Cluster.deploymentName ref.id node.serial))) with
    | mk outcome after =>
        rw [hanswer] at hmade
        cases outcome with
        | failed failure => exact honly _ hmade
        | hung => exact honly _ hmade
        | answered answer =>
            cases (answer : Bool) with
            | false => exact honly _ hmade
            | true => exact ⟨ref, node, _, rfl, hnode, hmade⟩

/-- What a single job does is what the mode promises. -/
theorem perform_routes (world : World σ) (nodeId : String) (job : Job) (state : σ) :
    let operation := controller.perform nodeId job
    settings.mode.Routes broker.directory ⟨⟨nodeId, job, (operation.run world state).1⟩,
      operation.program.exchanges world operation.name state⟩ := by
  intro operation
  have hreached : ∀ call ∈ (operation.program.exchanges world operation.name state).map (·.call),
      call.destination ∈ settings.mode.reached job := by
    intro call hcall
    obtain ⟨exchange, hexchange, rfl⟩ := List.mem_map.1 hcall
    exact (perform_reaches hcontroller nodeId job).exchanges world operation.name state
      exchange hexchange
  have hrefused : ∀ error, operation.program = .done (.error error) →
      (operation.program.exchanges world operation.name state).map (·.call) = [] ∧
        (operation.run world state).1 = .error error := by
    intro error hprogram
    simp only [Operation.run, hprogram, Program.run_done, Program.exchanges_done, List.map_nil,
      and_self]
  exact {
    native_cluster := by
      intro hmode call hcall
      rw [hmode] at hreached
      rcases Mode.native_reached (hreached call hcall) with h | h <;> simp [h]
    native_surface := by
      intro hmode call hcall surface hsurface
      rw [hmode] at hreached
      rcases Mode.native_reached (hreached call hcall) with h | h
      · cases hsurface.symm.trans h
      · exact Destination.node.inj (hsurface.symm.trans h)
    cluster_surface := by
      intro hcluster call hcall hsurface
      exact Mode.eva_not_reached hcluster (hsurface ▸ hreached call hcall)
    kubernetes_policies := by
      intro hmode call hcall hpolicies
      rw [hmode] at hreached
      exact Mode.policies_not_reached (hpolicies ▸ hreached call hcall)
    kubernetes_nodes := by
      intro hmode hlifecycle call hcall surface hsurface
      rw [hmode] at hreached
      obtain ⟨ref, rfl⟩ := Mode.undeploy_of_reached hlifecycle (hsurface ▸ hreached call hcall)
      exact undeploy_tells_after hcontroller hmode world nodeId ref state _ hsurface hcall
    ovn_nodes := by
      intro hmode hworkload call hcall surface hsurface
      rw [hmode] at hreached
      exact Mode.node_not_reached hworkload (hsurface ▸ hreached call hcall)
    ovn_interfaces := by
      intro hmode hinterface
      have hprogram := perform_interface_refused ((mode_of_settings hcontroller).trans hmode) nodeId
        hinterface
      exact ⟨(hrefused _ hprogram).1, _, (hrefused _ hprogram).2⟩
    kinds := by
      rintro ref payload rfl hbars
      obtain ⟨cause, hprogram⟩ := set_policy_refused hcontroller nodeId ref hbars
      exact ⟨(hrefused _ hprogram).1, cause, (hrefused _ hprogram).2⟩ }

end Controller

/-- In every run of jobs, in any world, each job does what the mode of the controller promises: its
calls go where the mode says, and what the mode does not take is refused without a call. -/
theorem calls_follow_mode {σ : Type} {settings : Settings} {broker : Broker} {hasCluster : Bool}
    {controller : Controller}
    (hcontroller : Controller.ofSettings settings broker hasCluster = .ok controller)
    (world : World σ) (requests : List (String × Job)) (state : σ) :
    ∀ entry ∈ controller.journal world requests state,
      settings.mode.Routes broker.directory entry := by
  induction requests generalizing state with
  | nil => simp [Controller.journal]
  | cons request rest ih =>
      obtain ⟨nodeId, job⟩ := request
      have hfirst := Controller.perform_routes hcontroller world nodeId job state
      exact List.forall_mem_cons.2 ⟨hfirst, ih _⟩

namespace Sample

/-- Settings under which workloads run in the cluster and their policies go to the node. -/
def mixedSettings : Settings :=
  { Settings.standard with mode := .kubernetes }

/-- The controller of these settings. -/
def mixedController : Controller :=
  ⟨.kubernetes, nodeBroker, Controller.backendOf mixedSettings nodeBroker .kubernetes⟩

end Sample

open Sample in
/-- Where policies are left to nodes, a policy for the cluster is refused unheard, and the node
hears of an undeployed application once its deployment is gone. -/
theorem calls_follow_mode_undeploy :
    let journal := mixedController.journal Script.world
      [(node.id, .setPolicy ref (.cluster coreOnly)), (node.id, .action (.undeploy ref))]
      (Sample.script (store 1) [])
    journal.map (fun entry => entry.calls.map Call.destination) =
        [[], [.deployments, .node .ela, .node .ela]] ∧
      ∀ entry ∈ journal, entry.job.isLifecycle → ∀ call ∈ entry.calls,
        ∀ surface, call.destination = .node surface → entry.Undeployed nodeBroker.directory := by
  intro journal
  have hsettings : Controller.ofSettings mixedSettings nodeBroker true = .ok mixedController := rfl
  refine ⟨by decide +kernel, fun entry hentry => ?_⟩
  exact (calls_follow_mode hsettings Script.world _ _ entry hentry).kubernetes_nodes rfl

end EdgeFleet
