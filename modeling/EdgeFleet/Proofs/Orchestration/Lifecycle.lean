import EdgeFleet.Proofs.Orchestration.Command
import EdgeFleet.Proofs.Orchestration.Phase

/-!
# The lifecycle of workloads in the cluster

`lifecycle_refines` is the main result: over a cluster whose calls do not fail, every run of actions
on any number of workloads and nodes ends every action as the phases say, and what the cluster keeps
shows the phases. It rests on `carry_out_follows`, which says the same of a single action, and that
this leaves the deployments of all other workloads alone.
-/

namespace EdgeFleet

/-- Carries tasks out one after another in a scripted world. -/
def Controller.runTasks (controller : Controller) :
    List Task → Script → List (Except Error (Option Status)) × Script
  | [], script => ([], script)
  | task :: rest, script =>
    let (result, next) :=
      (controller.carryOut task.node.id task.action).run Script.world script
    let (results, last) := controller.runTasks rest next
    (result :: results, last)

/-- Carrying an action out follows the phases if it ends as the phase of the workload says, leads to
the phase that it says, and leaves everything else alone. -/
def Controller.Follows (controller : Controller) (node : Node) (action : Action) (script : Script)
    (phase : Phase) : Prop :=
  let name := Cluster.deploymentName action.workloadId node.serial
  let ended := (controller.carryOut node.id action).run Script.world script
  Verdict.of ended.1 = (phase.step action).1 ∧
    Phase.shown (ended.2.store.deployment? name) = some (phase.step action).2 ∧
    Confined name script ended.2

namespace Controller

open Cluster Placing Script

variable {controller : Controller} {placing : Placing} {node : Node} {script : Script}
  {phase : Phase}
  (hbackend : controller.backend = placing.backend)
  (hserial : placing.serial node.id = .ok node.serial)
  (hsteady : script.Steady)
include hbackend hserial hsteady

/-- Deploying makes what is absent stopped, and is refused otherwise. -/
theorem deploy_follows {workload : Workload} (hsuits : (Action.deploy workload).Suits)
    (hmachines : script.store.machines node.id = 1)
    (hshown : Phase.shown (script.store.deployment? (deploymentName workload.id node.serial)) =
      some phase) :
    controller.Follows node (.deploy workload) script phase := by
  obtain ⟨hcheck, hpackaging, hports⟩ := hsuits
  obtain ⟨deployment, hbuild, hname, hreplicas⟩ :=
    placing.build_ok node.id node.serial 0 hpackaging hports
  simp only [Follows, Action.workloadId, Operation.run,
    carry_out_deploy hbackend hserial hcheck hbuild, run_performed (hsteady.performs _),
    Store.perform_count_nodes, hmachines, only_machine_one]
  rw [run_performed (hsteady.noted.performs _), store_noted]
  rw [← hname] at hshown ⊢
  cases phase with
  | absent =>
      rw [Store.perform_create_free (Phase.shown_absent.1 hshown)]
      have hput : Phase.shown ((script.store.putDeployment (Store.nameOf deployment.metadata)
          deployment).deployment? (Store.nameOf deployment.metadata)) = some .stopped :=
        Phase.shown_stopped.2 ⟨deployment, by simp, hreplicas⟩
      exact ⟨rfl, hput, .trans (.same _) (.put _ _)⟩
  | stopped =>
      obtain ⟨present, hpresent, -⟩ := Phase.shown_stopped.1 hshown
      rw [Store.perform_create_taken hpresent]
      exact ⟨rfl, hshown, .trans (.same _) (.same _)⟩
  | running =>
      obtain ⟨present, hpresent, -⟩ := Phase.shown_running.1 hshown
      rw [Store.perform_create_taken hpresent]
      exact ⟨rfl, hshown, .trans (.same _) (.same _)⟩

/-- Redeploying keeps the phase of what is there. -/
theorem redeploy_follows {workload : Workload} (hsuits : (Action.redeploy workload).Suits)
    (hshown : Phase.shown (script.store.deployment? (deploymentName workload.id node.serial)) =
      some phase) :
    controller.Follows node (.redeploy workload) script phase := by
  obtain ⟨hcheck, hpackaging, hports⟩ := hsuits
  simp only [Follows, Action.workloadId, Operation.run,
    carry_out_redeploy hbackend hserial hcheck, run_performed (hsteady.performs _),
    Store.perform_get_deployment]
  cases hfound : script.store.deployment? (deploymentName workload.id node.serial) with
  | none =>
      obtain rfl := Option.some.inj (hshown.symm.trans (Phase.shown_absent.2 hfound))
      exact ⟨rfl, hshown, .same _⟩
  | some current =>
      obtain ⟨deployment, hbuild, hname, hreplicas⟩ :=
        placing.build_ok node.id node.serial current.replicas hpackaging hports
      have hkept : Phase.shown ((script.store.putDeployment (deploymentName workload.id node.serial)
          deployment).deployment? (deploymentName workload.id node.serial)) = some phase := by
        rw [hfound] at hshown
        rw [Store.deployment_put_deployment, if_pos rfl, ← hshown]
        exact Phase.shown_congr (hreplicas.trans (Phase.replicas_of_shown hshown).symm)
      simp only [present_some, hbuild, Program.done_ok_bind]
      rw [run_performed (hsteady.noted.performs _), Store.perform_apply_deployment, hname]
      cases phase with
      | absent => cases hfound.symm.trans (Phase.shown_absent.1 hshown)
      | stopped => exact ⟨rfl, hkept, .trans (.same _) (.put _ _)⟩
      | running => exact ⟨rfl, hkept, .trans (.same _) (.put _ _)⟩

/-- A command on what is absent is refused. -/
theorem command_absent_follows {ref : WorkloadRef} (command : Command) (hid : ref.id ≠ "")
    (hfound : script.store.deployment? (deploymentName ref.id node.serial) = none) :
    controller.Follows node (.command ref command) script .absent := by
  simp only [Follows, Action.workloadId, Operation.run,
    carry_out_command hbackend hserial hid, run_performed (hsteady.performs _),
    Store.perform_get_deployment, hfound, present_none]
  cases command <;> exact ⟨rfl, Phase.shown_absent.2 hfound, .same _⟩

/-- A command that the number of copies allows leads to the phase that its scalings show. -/
theorem command_allowed_follows {ref : WorkloadRef} {command : Command} {current : Deployment}
    {next : Phase} (hid : ref.id ≠ "")
    (hfound : script.store.deployment? (deploymentName ref.id node.serial) = some current)
    (hallowed : command.allowed current.runState)
    (hstep : phase.step (.command ref command) = (.ok (some command.target), next))
    (hnext : Phase.shown (some ((counts command).foldl Deployment.scaled current)) = some next) :
    controller.Follows node (.command ref command) script phase := by
  have hget := hsteady.is_fault 0
  simp only [Follows, Action.workloadId, hstep,
    run_command_allowed hbackend hserial hid hfound hget hallowed]
  have hfetched : (script.noted (.getDeployment (deploymentName ref.id node.serial))
      script.store).store.deployment? (deploymentName ref.id node.serial) = some current := hfound
  obtain ⟨hconfined, hresult, hlast⟩ := run_scale_all_steady command.name
    (.ok (some command.target)) (counts command) hsteady.noted hfetched
  rw [hresult, hlast]
  exact ⟨rfl, hnext, .trans (.same _) hconfined⟩

/-- A command that the number of copies does not allow is refused and changes nothing. -/
theorem command_refused_follows {ref : WorkloadRef} {command : Command} {current : Deployment}
    (hid : ref.id ≠ "")
    (hfound : script.store.deployment? (deploymentName ref.id node.serial) = some current)
    (hrefused : command.allowed current.runState = false)
    (hstep : phase.step (.command ref command) = (.failedPrecondition, phase))
    (hshown : Phase.shown (some current) = some phase) :
    controller.Follows node (.command ref command) script phase := by
  have hget := hsteady.is_fault 0
  simp only [Follows, Action.workloadId, hstep,
    run_command_refused hbackend hserial hid hfound hget hrefused]
  exact ⟨rfl, by rw [store_noted, hfound, hshown], .same _⟩

/-- A command is carried out in the phase that allows it and refused in every other one. -/
theorem command_follows {ref : WorkloadRef} (command : Command) (hid : ref.id ≠ "")
    (hshown : Phase.shown (script.store.deployment? (deploymentName ref.id node.serial)) =
      some phase) :
    controller.Follows node (.command ref command) script phase := by
  have hallow := @command_allowed_follows controller placing node script phase hbackend hserial
    hsteady ref
  have hrefuse := @command_refused_follows controller placing node script phase hbackend hserial
    hsteady ref
  cases phase with
  | absent =>
      exact command_absent_follows hbackend hserial hsteady command hid
        (Phase.shown_absent.1 hshown)
  | stopped =>
      obtain ⟨current, hfound, hzero⟩ := Phase.shown_stopped.1 hshown
      have hstate : current.runState = .stopped := by
        simp [Deployment.runState, Deployment.replicas, hzero]
      have hspec := current.spec_of_replicas 0 hzero
      rw [hfound] at hshown
      -- Only a start is allowed, and it leaves one copy.
      cases command with
      | start =>
          have hone := Phase.shown_running.2 ⟨_, rfl, Deployment.replicas_scaled_all hspec [1]⟩
          exact hallow hid hfound (by rw [hstate]; rfl) rfl hone
      | stop => exact hrefuse hid hfound (by rw [hstate]; rfl) rfl hshown
      | restart => exact hrefuse hid hfound (by rw [hstate]; rfl) rfl hshown
  | running =>
      obtain ⟨current, hfound, hone⟩ := Phase.shown_running.1 hshown
      have hstate : current.runState = .running := by
        simp [Deployment.runState, Deployment.replicas, hone]
      have hspec := current.spec_of_replicas 1 hone
      rw [hfound] at hshown
      cases command with
      | start => exact hrefuse hid hfound (by rw [hstate]; rfl) rfl hshown
      | stop =>
          have hzero := Phase.shown_stopped.2 ⟨_, rfl, Deployment.replicas_scaled_all hspec [0]⟩
          exact hallow hid hfound (by rw [hstate]; rfl) rfl hzero
      | restart =>
          have hagain := Phase.shown_running.2
            ⟨_, rfl, Deployment.replicas_scaled_all hspec [0, 1]⟩
          exact hallow hid hfound (by rw [hstate]; rfl) rfl hagain

/-- Undeploying makes everything absent. -/
theorem undeploy_follows {ref : WorkloadRef} (hid : ref.id ≠ "")
    (hroute : placing.policies = .networkPolicy)
    (hshown : Phase.shown (script.store.deployment? (deploymentName ref.id node.serial)) =
      some phase) :
    controller.Follows node (.undeploy ref) script phase := by
  simp only [Follows, Action.workloadId, Operation.run,
    carry_out_undeploy hbackend hserial hid hroute, run_performed (hsteady.performs _),
    Store.perform_delete_deployment]
  have hgone : Phase.shown ((script.store.dropDeployment
      (deploymentName ref.id node.serial)).deployment? (deploymentName ref.id node.serial)) =
        some .absent :=
    Phase.shown_absent.2 (by simp)
  cases hfound : script.store.deployment? (deploymentName ref.id node.serial) with
  | none =>
      obtain rfl := Option.some.inj (hshown.symm.trans (Phase.shown_absent.2 hfound))
      exact ⟨rfl, hgone, .drop _⟩
  | some current =>
      simp only [Option.isSome_some, if_true]
      rw [run_performed (hsteady.noted.performs _), Store.perform_delete_policy]
      cases phase with
      | absent => cases hfound.symm.trans (Phase.shown_absent.1 hshown)
      | stopped => exact ⟨rfl, hgone, .trans (.drop _) (.drop_policy _ _)⟩
      | running => exact ⟨rfl, hgone, .trans (.drop _) (.drop_policy _ _)⟩

/-- Carrying out any action that suits follows the phases. -/
theorem carry_out_follows {action : Action} (hsuits : action.Suits)
    (hroute : placing.policies = .networkPolicy) (hmachines : script.store.machines node.id = 1)
    (hshown : Phase.shown
      (script.store.deployment? (deploymentName action.workloadId node.serial)) = some phase) :
    controller.Follows node action script phase := by
  have hid := Uuid.ne_of_valid hsuits.valid
  cases action with
  | deploy workload =>
      exact deploy_follows hbackend hserial hsteady hsuits hmachines hshown
  | redeploy workload => exact redeploy_follows hbackend hserial hsteady hsuits hshown
  | command ref command => exact command_follows hbackend hserial hsteady command hid hshown
  | undeploy ref => exact undeploy_follows hbackend hserial hsteady hid hroute hshown

end Controller

namespace Roster

open Cluster

variable {controller : Controller} {placing : Placing} (roster : Roster placing.directory)
  {script : Script} {fleet : Fleet}

variable (hbackend : controller.backend = placing.backend)
  (hroute : placing.policies = .networkPolicy)
include hbackend hroute

/-- A task that suits ends as the fleet says, and the cluster shows the fleet after it. -/
theorem task_refines {task : Task} (hnode : task.node ∈ roster.nodes)
    (hsuits : task.action.Suits) (hsteady : script.Steady)
    (hmachines : ∀ node ∈ roster.nodes, script.store.machines node.id = 1)
    (hshows : roster.Shows script.store fleet) :
    let ended := (controller.carryOut task.node.id task.action).run Script.world script
    Verdict.of ended.1 = (fleet.step task).1 ∧ roster.Shows ended.2.store (fleet.step task).2 ∧
      ended.2.Steady ∧ ∀ node ∈ roster.nodes, ended.2.store.machines node.id = 1 := by
  obtain ⟨hverdict, hphase, hconfined⟩ := controller.carry_out_follows hbackend
    (Placing.serial_eq (roster.known task.node hnode)) hsteady hsuits hroute
    (hmachines task.node hnode) (hshows task.node hnode task.action.workloadId hsuits.valid)
  refine ⟨hverdict, fun node hmember id hid => ?_, hconfined.steady hsteady,
    fun node hmember => (congrFun hconfined.machines node.id).trans (hmachines node hmember)⟩
  by_cases h : node = task.node ∧ id = task.action.workloadId
  · simp only [Fleet.step, h, and_self, if_true]
    exact hphase
  -- The deployment of any other pair has another name, and the task leaves that alone.
  · have hname : deploymentName id node.serial ≠
        deploymentName task.action.workloadId task.node.serial :=
      fun hname => h (roster.task_of_name hmember hnode hid hsuits.valid hname)
    simp only [Fleet.step, h, if_false]
    rw [hconfined.others _ hname]
    exact hshows node hmember id hid

/-- Tasks that suit end as the fleet says, and the cluster shows the fleet after them. -/
theorem tasks_refine {tasks : List Task}
    (htasks : ∀ task ∈ tasks, task.node ∈ roster.nodes ∧ task.action.Suits)
    (hsteady : script.Steady)
    (hmachines : ∀ node ∈ roster.nodes, script.store.machines node.id = 1)
    (hshows : roster.Shows script.store fleet) :
    (controller.runTasks tasks script).1.map Verdict.of = (fleet.run tasks).1 ∧
      roster.Shows (controller.runTasks tasks script).2.store (fleet.run tasks).2 := by
  -- Every task leaves a steady script, a machine for each node and a cluster that shows the fleet.
  induction tasks generalizing script fleet with
  | nil => exact ⟨rfl, hshows⟩
  | cons task rest ih =>
      obtain ⟨hnode, hsuits⟩ := htasks task (by simp)
      obtain ⟨hverdict, hnext, hstill, hkept⟩ :=
        roster.task_refines hbackend hroute hnode hsuits hsteady hmachines hshows
      obtain ⟨hverdicts, hlast⟩ :=
        ih (fun other hother => htasks other (by simp [hother])) hstill hkept hnext
      refine ⟨?_, hlast⟩
      simp only [Controller.runTasks, Fleet.run, List.map_cons, hverdict, hverdicts]

end Roster

/-- Every run of actions on workloads of a fleet of nodes goes by the phases: over a cluster that
is empty at first and whose calls do not fail, every action ends as the phases say, and in the end
the deployment of every workload on every node shows its phase. -/
theorem lifecycle_refines {settings : Settings} {broker : Broker} {controller : Controller}
    {hasCluster : Bool} (hmode : settings.mode = .kubernetesOvn)
    (hcontroller : Controller.ofSettings settings broker hasCluster = .ok controller)
    (roster : Roster broker.directory) {tasks : List Task}
    (htasks : ∀ task ∈ tasks, task.node ∈ roster.nodes ∧ task.action.Suits) {script : Script}
    (hsteady : script.Steady)
    (hmachines : ∀ node ∈ roster.nodes, script.store.machines node.id = 1)
    (hempty : script.store.deployments = []) :
    (controller.runTasks tasks script).1.map Verdict.of = (Fleet.empty.run tasks).1 ∧
      roster.Shows (controller.runTasks tasks script).2.store (Fleet.empty.run tasks).2 := by
  have hnone : roster.Shows script.store Fleet.empty := by
    intro node _ id _
    simp only [Cluster.Store.deployment?, hempty]
    rfl
  exact @Roster.tasks_refine controller (Controller.placing settings broker .networkPolicy) roster
    script .empty (Controller.backend_of_ovn_mode hmode hcontroller) rfl tasks htasks hsteady
    hmachines hnone

namespace Sample

/-- The two nodes. -/
def roster : Roster broker.directory where
  nodes := {node, otherNode}
  known := by
    rintro _ (rfl | rfl)
    · rfl
    · rfl
  distinct := by
    rintro _ (rfl | rfl) _ (rfl | rfl) h
    · rfl
    · exact absurd h (by decide)
    · exact absurd h (by decide)
    · rfl

/-- Tasks on both nodes, some of which are refused. -/
def tasks : List Task := [
  ⟨node, .deploy (.app app)⟩, ⟨node, .command ref .start⟩, ⟨otherNode, .redeploy (.app app)⟩,
  ⟨node, .redeploy (.app app)⟩, ⟨node, .command ref .restart⟩, ⟨node, .deploy (.app app)⟩,
  ⟨otherNode, .deploy (.app app)⟩, ⟨node, .undeploy ref⟩, ⟨otherNode, .command ref .stop⟩]

/-- The tasks suit. -/
theorem tasks_suit : ∀ task ∈ tasks, task.node ∈ roster.nodes ∧ task.action.Suits := by
  have happ : (Action.deploy (.app app)).Suits := ⟨check_app, rfl, by decide⟩
  have hid : Uuid.isValid ref.id := by decide
  have hnode : node ∈ roster.nodes := .inl rfl
  have hother : otherNode ∈ roster.nodes := .inr rfl
  simp only [tasks, List.forall_mem_cons, List.not_mem_nil, false_imp_iff, implies_true, and_true]
  exact ⟨⟨hnode, happ⟩, ⟨hnode, hid⟩, ⟨hother, happ⟩, ⟨hnode, happ⟩, ⟨hnode, hid⟩, ⟨hnode, happ⟩,
    ⟨hother, happ⟩, ⟨hnode, hid⟩, ⟨hother, hid⟩⟩

end Sample

/-- The phases say how nine tasks on two nodes end whose serial numbers begin alike. -/
theorem lifecycle_refines_two_nodes :
    (Sample.controller.runTasks Sample.tasks (Sample.script Sample.bare [])).1.map Verdict.of =
      [.ok (some .deployed), .ok (some .running), .notFound, .ok none, .ok (some .running),
        .failedPrecondition, .ok (some .deployed), .ok none, .failedPrecondition] := by
  have hsteady : (Sample.script Sample.bare []).Steady := rfl
  have hrefines := lifecycle_refines rfl Sample.of_settings Sample.roster Sample.tasks_suit hsteady
    (fun _ _ => rfl) rfl
  rw [hrefines.1]
  decide +kernel

end EdgeFleet
