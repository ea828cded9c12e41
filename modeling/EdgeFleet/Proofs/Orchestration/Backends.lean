import EdgeFleet.Proofs.Agent.Workloads
import EdgeFleet.Proofs.Orchestration.Lifecycle

/-!
# The two backends

A node that keeps workloads itself and a cluster that keeps them go by the same phases, action by
action. `carry_out_all_follows` packages the induction over a run for any world that follows the
phases; `carry_out_native` writes an action on a node out as its two calls. `backends_agree` is the
main result: the same actions end alike in both modes, but for deploying what is deployed already,
which `deployed_twice` tries.
-/

namespace EdgeFleet

/-- Sending a request to a node that can be reached is a connection, and then the request. -/
theorem Broker.send_calls (broker : Broker) (nodeId context : String) (request : Agent.Request)
    {route : Route} (h : broker.route nodeId request.surface = .ok route) :
    broker.send nodeId context request =
      .proceed (.dial nodeId route) fun _ =>
        .proceed (.agent nodeId context request) fun answer => .done (.ok answer) := by
  simp only [send, connect, h, Program.monad_lift_eq, Program.done_ok_bind, Program.make_eq,
    Program.proceed_bind]

/-- What is checked of an action before anything is called: a workload passes its check, and a
reference names something. -/
def Action.Passes : Action → Prop
  | .deploy workload | .redeploy workload => workload.check = .ok ()
  | .command ref _ | .undeploy ref => ref.id ≠ ""

/-- An action on a workload that the cluster can run passes. -/
theorem Action.Suits.passes {action : Action} (h : action.Suits) : action.Passes := by
  cases action with
  | deploy workload => exact h.1
  | redeploy workload => exact h.1
  | command ref command => exact Uuid.ne_of_valid h
  | undeploy ref => exact Uuid.ne_of_valid h

/-- What an action is called where a node refuses it. -/
def Action.context (nodeId : String) : Action → String
  | .deploy workload => s!"deploy {workload.ref.name} on node {nodeId}"
  | .redeploy workload => s!"redeploy {workload.ref.name} on node {nodeId}"
  | .command ref given => s!"{given.name} {ref.name} on node {nodeId}"
  | .undeploy ref => s!"undeploy {ref.name} on node {nodeId}"

/-- How actions end that follow one another from a phase. -/
def Phase.run (phase : Phase) : List Action → List Verdict
  | [] => []
  | action :: rest => (phase.step action).1 :: (phase.step action).2.run rest

/-- Every action of a run from a phase ends in its own way. -/
theorem Phase.zip_run (phase : Phase) (actions : List Action) :
    List.zipWith (fun _ verdict => verdict) actions (phase.run actions) = phase.run actions := by
  induction actions generalizing phase with
  | nil => rfl
  | cons action rest ih => exact congrArg (List.cons _) (ih _)

namespace Controller

/-- Carries actions on a node out one after another. -/
def carryOutAll {σ : Type} (controller : Controller) (world : World σ) (nodeId : String) :
    List Action → σ → List (Except Error (Option Status)) × σ
  | [], state => ([], state)
  | action :: rest, state =>
    let (result, next) := (controller.carryOut nodeId action).run world state
    let (results, last) := controller.carryOutAll world nodeId rest next
    (result :: results, last)

section Run

variable {σ : Type} {controller : Controller} {world : World σ} {nodeId : String}

/-- If every action ends by the phase that the world is in, in the way of that world, and leads to
the phase that it should, then every run does. -/
theorem carry_out_all_follows (holds : σ → Phase → Prop) (way : Action → Verdict → Verdict)
    {actions : List Action} {state : σ} {phase : Phase}
    (hstep : ∀ action ∈ actions, ∀ state phase, holds state phase →
      let ended := (controller.carryOut nodeId action).run world state
      Verdict.of ended.1 = way action (phase.step action).1 ∧
        holds ended.2 (phase.step action).2)
    (h : holds state phase) :
    (controller.carryOutAll world nodeId actions state).1.map Verdict.of =
      List.zipWith way actions (phase.run actions) := by
  induction actions generalizing state phase with
  | nil => rfl
  | cons action rest ih =>
      obtain ⟨hverdict, hnext⟩ := hstep action List.mem_cons_self state phase h
      have hrest := ih (fun other hother => hstep other (List.mem_cons_of_mem _ hother)) hnext
      simp only [carryOutAll, List.map_cons, Phase.run, List.zipWith_cons_cons, hverdict, hrest]

end Run

variable {broker : Broker} {controller : Controller} {nodeId : String} {route : Route}
  {action : Action}
  (hbackend : controller.backend = Native.backend broker)
include hbackend

/-- An action that passes sends one request to the node. -/
theorem carry_out_send (hpasses : action.Passes) :
    (controller.carryOut nodeId action).program =
      broker.send nodeId (action.context nodeId) action.request >>= fun _ =>
        .done (.ok action.report) := by
  cases action with
  | deploy workload =>
      have hcheck : workload.check = .ok () := hpasses
      simp only [carryOut, Operation.map, deploy, hcheck, hbackend, Native.backend,
        Program.check_ok, Program.monad_lift_eq, Program.done_ok_bind, Program.map_eq]
      exact Program.bind_assoc (broker.send nodeId _ _) _ _
  | redeploy workload =>
      have hcheck : workload.check = .ok () := hpasses
      simp only [carryOut, Operation.map, redeploy, hcheck, hbackend, Native.backend]
      rfl
  | command ref command =>
      simp only [carryOut, Operation.map, Controller.command, check_ref_ok hpasses, hbackend,
        Native.backend, Program.monad_lift_eq, Program.done_ok_bind, Program.map_eq]
      exact Program.bind_assoc (broker.send nodeId _ _) _ _
  | undeploy ref =>
      simp only [carryOut, Operation.map, undeploy, check_ref_ok hpasses, hbackend, Native.backend]
      rfl

variable (hroute : broker.route nodeId .eva = .ok route)
include hroute

/-- If the node can be reached, that is one connection and one request. -/
theorem carry_out_native (hpasses : action.Passes) :
    (controller.carryOut nodeId action).program =
      .proceed (.dial nodeId route) fun _ =>
        .proceed (.agent nodeId (action.context nodeId) action.request) fun _ =>
          .done (.ok action.report) := by
  have hsurface : action.request.surface = .eva := by
    cases action <;> rfl
  rw [carry_out_send hbackend hpasses,
    broker.send_calls nodeId (action.context nodeId) action.request (hsurface ▸ hroute),
    Program.proceed_bind]
  exact congrArg (Program.proceed _) (funext fun _ => Program.proceed_bind _ _ _)

/-- On a node an action ends by the phase that the node reports, and leads to the phase that it
should. -/
theorem native_follows {statuses : Agent.Statuses} {phase : Phase} (hsuits : action.Suits)
    (h : Phase.reported (statuses action.workloadId) = some phase) :
    let ended := (controller.carryOut nodeId action).run Agent.world statuses
    Verdict.of ended.1 = Verdict.atNode action (phase.step action).1 ∧
      Phase.reported (ended.2 action.workloadId) = some (phase.step action).2 := by
  obtain ⟨hverdict, hphase⟩ : Agent.Follows (action.context nodeId) statuses action phase :=
    Agent.serve_follows h
  simp only [Operation.run, carry_out_native hbackend hroute hsuits.passes, Program.run_proceed,
    Agent.world]
  cases hserved : Agent.serve statuses action.request with
  | mk result after =>
      rw [hserved] at hverdict hphase
      cases result with
      | ok answer => exact ⟨hverdict, hphase⟩
      | error status => exact ⟨hverdict, hphase⟩

/-- Actions on one workload on a node end by the phases, in the way of a node. -/
theorem run_on_node {id : String} {actions : List Action} {statuses : Agent.Statuses}
    {phase : Phase} (hactions : ∀ action ∈ actions, action.Suits ∧ action.workloadId = id)
    (h : Phase.reported (statuses id) = some phase) :
    (controller.carryOutAll Agent.world nodeId actions statuses).1.map Verdict.of =
      List.zipWith Verdict.atNode actions (phase.run actions) := by
  refine carry_out_all_follows (fun statuses phase => Phase.reported (statuses id) = some phase)
    Verdict.atNode ?_ h
  intro action haction statuses phase hreported
  obtain ⟨hsuits, rfl⟩ := hactions action haction
  exact native_follows hbackend hroute hsuits hreported

omit hbackend hroute in
/-- Actions on one workload in a cluster whose calls do not fail end by the phases. -/
theorem run_in_cluster {placing : Cluster.Placing} {node : Node} {id : String}
    {actions : List Action} {script : Script} {phase : Phase}
    (hbackend : controller.backend = placing.backend) (hroute : placing.policies = .networkPolicy)
    (hserial : placing.serial node.id = .ok node.serial)
    (hactions : ∀ action ∈ actions, action.Suits ∧ action.workloadId = id)
    (hsteady : script.Steady) (hmachines : script.store.machines node.id = 1)
    (h : Phase.shown (script.store.deployment? (Cluster.deploymentName id node.serial)) =
      some phase) :
    (controller.carryOutAll Script.world node.id actions script).1.map Verdict.of =
      phase.run actions := by
  let holds (script : Script) (phase : Phase) : Prop :=
    script.Steady ∧ script.store.machines node.id = 1 ∧
      Phase.shown (script.store.deployment? (Cluster.deploymentName id node.serial)) = some phase
  refine (carry_out_all_follows holds (fun _ verdict => verdict) ?_
    ⟨hsteady, hmachines, h⟩).trans (phase.zip_run actions)
  rintro action haction script phase ⟨hsteady, hmachines, hshown⟩
  obtain ⟨hsuits, rfl⟩ := hactions action haction
  obtain ⟨hverdict, hphase, hconfined⟩ :=
    carry_out_follows hbackend hserial hsteady hsuits hroute hmachines hshown
  exact ⟨hverdict, hconfined.steady hsteady,
    (congrFun hconfined.machines node.id).trans hmachines, hphase⟩

end Controller

/-- The actions on a workload end alike in the native mode, on a node that can be reached and keeps
workloads itself, and in a cluster whose calls do not fail: by the phase that the workload is in at
first on both sides. Only deploying what is deployed already ends differently. The cluster refuses
it because of the state that the workload is in, and the node with a status that is no category of
its own. -/
theorem backends_agree {settings clusterSettings : Settings} {broker clusterBroker : Broker}
    {hasCluster hasCluster' : Bool} {native cluster : Controller} {node : Node} {id : String}
    {phase : Phase} {statuses : Agent.Statuses} {script : Script} {actions : List Action}
    (hmode : settings.mode = .native)
    (hnative : Controller.ofSettings settings broker hasCluster = .ok native)
    (hreached : (broker.route node.id .eva).isOk)
    (hmode' : clusterSettings.mode = .kubernetesOvn)
    (hcluster : Controller.ofSettings clusterSettings clusterBroker hasCluster' = .ok cluster)
    (hnode : clusterBroker.directory.node node.id = .ok (some node))
    (hsteady : script.Steady) (hmachines : script.store.machines node.id = 1)
    (hreported : Phase.reported (statuses id) = some phase)
    (hshown : Phase.shown (script.store.deployment? (Cluster.deploymentName id node.serial)) =
      some phase)
    (hactions : ∀ action ∈ actions, action.Suits ∧ action.workloadId = id) :
    let onNode := (native.carryOutAll Agent.world node.id actions statuses).1.map Verdict.of
    let inCluster := (cluster.carryOutAll Script.world node.id actions script).1.map Verdict.of
    inCluster = phase.run actions ∧
      onNode = List.zipWith Verdict.atNode actions inCluster := by
  intro onNode inCluster
  have hruns : inCluster = phase.run actions :=
    Controller.run_in_cluster (Controller.backend_of_ovn_mode hmode' hcluster) rfl
      (Cluster.Placing.serial_eq hnode) hactions hsteady hmachines hshown
  obtain ⟨route, hroute⟩ : ∃ route, broker.route node.id .eva = .ok route := by
    cases hresult : broker.route node.id .eva with
    | error error =>
        rw [hresult] at hreached
        cases hreached
    | ok route => exact ⟨route, rfl⟩
  refine ⟨hruns, ?_⟩
  rw [hruns]
  exact Controller.run_on_node (Controller.backend_of_native_mode hmode hnative) hroute hactions
    hreported

namespace Sample

/-- Reaches the first node at the address that it registered. -/
def nodeBroker : Broker :=
  .ofSettings .standard ⟨fun _ => .ok ["192.0.2.7"], broker.directory.node⟩ library none

/-- The controller that hands everything to the node. -/
def nodeController : Controller :=
  ⟨.native, nodeBroker, Native.backend nodeBroker⟩

/-- Actions on the application that both modes carry out or refuse. -/
def actions : List Action :=
  [.deploy (.app app), .command ref .start, .deploy (.app app), .command ref .restart,
    .redeploy (.app app), .command ref .stop, .undeploy ref, .command ref .start]

/-- All of them suit, and are about the application. -/
theorem actions_suit : ∀ action ∈ actions, action.Suits ∧ action.workloadId = app.id := by
  have happ : (Action.deploy (.app app)).Suits := ⟨check_app, rfl, by decide⟩
  have hid : Uuid.isValid ref.id := by decide
  simp only [actions, List.forall_mem_cons, List.not_mem_nil, false_imp_iff, implies_true, and_true]
  exact ⟨⟨happ, rfl⟩, ⟨hid, rfl⟩, ⟨happ, rfl⟩, ⟨hid, rfl⟩, ⟨happ, rfl⟩, ⟨hid, rfl⟩, ⟨hid, rfl⟩,
    ⟨hid, rfl⟩⟩

end Sample

open Sample in
/-- Of eight actions on an application, only the second of two deployments ends differently. -/
theorem backends_agree_eight_actions :
    ((Sample.controller.carryOutAll Script.world node.id actions
        (Sample.script Sample.bare [])).1.map Verdict.of =
      [.ok (some .deployed), .ok (some .running), .failedPrecondition, .ok (some .running),
        .ok none, .ok (some .stopped), .ok none, .notFound]) ∧
      (nodeController.carryOutAll Agent.world node.id actions fun _ => none).1.map Verdict.of =
        [.ok (some .deployed), .ok (some .running), .otherError, .ok (some .running),
          .ok none, .ok (some .stopped), .ok none, .notFound] := by
  have hnative : Controller.ofSettings .standard nodeBroker false = .ok nodeController := rfl
  have hsteady : (Sample.script Sample.bare []).Steady := rfl
  have hreached : (nodeBroker.route node.id .eva).isOk := by decide +kernel
  obtain ⟨hcluster, hnode⟩ := @backends_agree _ _ _ _ _ _ _ _ _ _ .absent (fun _ => none) _ _
    rfl hnative hreached rfl of_settings node_known hsteady rfl rfl rfl actions_suit
  rw [hcluster] at hnode ⊢
  refine ⟨?_, hnode.trans ?_⟩
  · decide +kernel
  · decide +kernel

open Sample in
/-- A second deployment of the same application is refused for its state by the cluster, and for
something else by the node. -/
theorem deployed_twice :
    (Sample.controller.carryOutAll Script.world node.id [.deploy (.app app), .deploy (.app app)]
        (Sample.script Sample.bare [])).1.map Verdict.of =
      [.ok (some .deployed), .failedPrecondition] ∧
      (nodeController.carryOutAll Agent.world node.id [.deploy (.app app), .deploy (.app app)]
          fun _ => none).1.map Verdict.of =
        [.ok (some .deployed), .otherError] := by
  decide +kernel

end EdgeFleet
