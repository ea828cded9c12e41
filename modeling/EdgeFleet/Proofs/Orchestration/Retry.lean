import EdgeFleet.Proofs.Orchestration.Command

/-!
# Carrying an action out again after it failed

What is left in the cluster when calls of an undeploy or a restart meet faults, and what doing the
same again makes of it. Undeploying deletes the deployment before the policy and later finds nothing
to do without a deployment, so that a policy can be left behind (`undeploy_retried`). A restart that
fails between its two scalings leaves no copy, and the next restart is refused (`restart_again`).
-/

namespace EdgeFleet

namespace Controller

/-- Carries an action out time and again. Every attempt meets replies of its own first. -/
def retry (controller : Controller) (nodeId : String) (action : Action) :
    List (List ClusterReply) → Script → List (Except Error (Option Status)) × Script
  | [], script => ([], script)
  | replies :: rest, script =>
    let (result, next) :=
      (controller.carryOut nodeId action).run Script.world (script.facing replies)
    let (results, last) := controller.retry nodeId action rest next
    (result :: results, last)

/-- Whether the first attempt that gets to delete the deployment fails to delete the policy. -/
def stranded : List (List ClusterReply) → Bool
  | [] => false
  | replies :: rest =>
    if (ClusterReply.nth replies 0).isFault then stranded rest
    else (ClusterReply.nth replies 1).isFault

end Controller

/-- A restart is cut in half if fetching the deployment and taking its copies away meet no fault,
but asking for one copy again does. -/
def Script.Halves (script : Script) : Prop :=
  ¬ (script.reply 0).isFault ∧ ¬ (script.reply 1).isFault ∧ (script.reply 2).isFault

instance (script : Script) : Decidable script.Halves :=
  inferInstanceAs (Decidable (_ ∧ _))

namespace Controller

section Undeploy

open Cluster Placing Script

variable {controller : Controller} {placing : Placing} {nodeId serial : String}
  {ref : WorkloadRef}
  (hbackend : controller.backend = placing.backend)
  (hserial : placing.serial nodeId = .ok serial)
  (hid : ref.id ≠ "")
  (hroute : placing.policies = .networkPolicy)
include hbackend hserial hid hroute

/-- What an undeploy leaves: nothing changes if the first deletion meets a fault, and the policy
stays if there was no deployment or the second deletion meets one. -/
theorem store_undeploy (script : Script) :
    ((controller.carryOut nodeId (.undeploy ref)).run world script).2.store =
      if (script.reply 0).isFault then script.store
      else if (script.store.deployment? (deploymentName ref.id serial)).isSome ∧
          ¬ (script.reply 1).isFault then
        (script.store.dropDeployment (deploymentName ref.id serial)).dropPolicy
          (networkPolicyName ref.id serial)
      else script.store.dropDeployment (deploymentName ref.id serial) := by
  rw [Operation.run, carry_out_undeploy hbackend hserial hid hroute]
  cases hfirst : (script.reply 0).isFault with
  | true =>
      obtain ⟨error, hended⟩ := run_fault hfirst
      rw [hended]
      rfl
  | false =>
      rw [run_performed (ClusterReply.performs_of_fault hfirst (by simp))]
      simp only [Store.perform_delete_deployment]
      cases hfound : (script.store.deployment? (deploymentName ref.id serial)).isSome with
      | false => simp
      | true =>
          have hreply : (script.noted (.deleteDeployment (deploymentName ref.id serial))
              (script.store.dropDeployment (deploymentName ref.id serial))).reply 0 =
                script.reply 1 := reply_noted 0
          simp only [if_true]
          cases hsecond : (script.reply 1).isFault with
          | true =>
              obtain ⟨error, hended⟩ := run_fault (by rw [hreply, hsecond])
              rw [hended]
              simp
          | false =>
              rw [run_performed
                (ClusterReply.performs_of_fault (by rw [hreply, hsecond]) (by simp))]
              simp

/-- Without a deployment no attempt to undeploy does anything about the policy. -/
theorem store_retry_absent (attempts : List (List ClusterReply)) {script : Script}
    (h : script.store.deployment? (deploymentName ref.id serial) = none) :
    let after := (controller.retry nodeId (.undeploy ref) attempts script).2.store
    after.deployment? (deploymentName ref.id serial) = none ∧
      after.policy? (networkPolicyName ref.id serial) =
        script.store.policy? (networkPolicyName ref.id serial) := by
  induction attempts generalizing script with
  | nil => exact ⟨h, rfl⟩
  | cons replies rest ih =>
      have hstore := store_undeploy hbackend hserial hid hroute (script.facing replies)
      simp only [store_facing, h, Option.isSome_none, Bool.false_eq_true, false_and, if_false]
        at hstore
      have hgone : ((controller.carryOut nodeId (.undeploy ref)).run world
          (script.facing replies)).2.store.deployment? (deploymentName ref.id serial) = none := by
        rw [hstore]
        split <;> simp [h]
      obtain ⟨hlast, hpolicy⟩ := ih hgone
      refine ⟨hlast, hpolicy.trans ?_⟩
      rw [hstore]
      split <;> rfl

/-- Undeploying until an attempt meets no fault takes the deployment out, and the policy too unless
that is stranded. -/
theorem store_retry_present (attempts : List (List ClusterReply)) {script : Script}
    (h : (script.store.deployment? (deploymentName ref.id serial)).isSome) :
    let after := (controller.retry nodeId (.undeploy ref) (attempts ++ [[]]) script).2.store
    after.deployment? (deploymentName ref.id serial) = none ∧
      after.policy? (networkPolicyName ref.id serial) =
        if stranded attempts then script.store.policy? (networkPolicyName ref.id serial)
        else none := by
  -- Up to the first attempt that deletes the deployment nothing changes, and after it no attempt
  -- comes to the policy.
  induction attempts generalizing script with
  | nil =>
      have hstore := store_undeploy hbackend hserial hid hroute (script.facing [])
      have hsteady : (script.facing []).Steady := rfl
      simp only [store_facing, h, hsteady.is_fault, true_and] at hstore
      simp only [List.nil_append, retry, hstore]
      exact ⟨by simp, by simp [stranded]⟩
  | cons replies rest ih =>
      have hstore := store_undeploy hbackend hserial hid hroute (script.facing replies)
      simp only [store_facing, reply_facing, h, true_and] at hstore
      by_cases hfirst : (ClusterReply.nth replies 0).isFault
      · simp only [stranded, hfirst, if_true] at hstore ⊢
        rw [← hstore] at h ⊢
        exact ih h
      · simp only [stranded, hfirst, Bool.false_eq_true, if_false] at hstore ⊢
        have hgone : ((controller.carryOut nodeId (.undeploy ref)).run world
            (script.facing replies)).2.store.deployment? (deploymentName ref.id serial) = none := by
          rw [hstore]
          split <;> simp
        obtain ⟨hlast, hpolicy⟩ :=
          store_retry_absent hbackend hserial hid hroute (rest ++ [[]]) hgone
        refine ⟨hlast, hpolicy.trans ?_⟩
        rw [hstore]
        by_cases hsecond : (ClusterReply.nth replies 1).isFault
        · simp [hsecond]
        · simp [hsecond]

end Undeploy

section Restart

open Cluster Placing Script

variable {controller : Controller} {placing : Placing} {nodeId serial : String}
  {ref : WorkloadRef} {script : Script} {current : Deployment}
  (hbackend : controller.backend = placing.backend)
  (hserial : placing.serial nodeId = .ok serial)
  (hid : ref.id ≠ "")
  (hfound : script.store.deployment? (deploymentName ref.id serial) = some current)
include hbackend hserial hid hfound

/-- How the restart of a running workload ends: the fetch or the first scaling meets a fault and
the deployment is as it was, it is cut in half and no copy is left, or all goes well. -/
theorem restart_cases (hrunning : current.replicas > 0) :
    let ended := (controller.carryOut nodeId (.command ref .restart)).run world script
    let left := ended.2.store.deployment? (deploymentName ref.id serial)
    (((script.reply 0).isFault ∨ (script.reply 1).isFault) ∧ left = some current) ∨
      (script.Halves ∧ left = some (current.scaled 0)) ∨ ended.1 = .ok (some .running) := by
  have hallowed : Command.restart.allowed current.runState :=
    (Command.allowed_run_state .restart current).2 hrunning
  cases hget : (script.reply 0).isFault with
  | true =>
      rw [Operation.run, carry_out_command hbackend hserial hid]
      obtain ⟨error, hended⟩ := run_fault hget
      rw [hended]
      exact .inl ⟨.inl rfl, hfound⟩
  | false =>
      rw [run_command_allowed hbackend hserial hid hfound hget hallowed]
      have hfetched : (script.noted (.getDeployment (deploymentName ref.id serial))
          script.store).store.deployment? (deploymentName ref.id serial) = some current := hfound
      obtain ⟨-, n, hn, hlast, hbefore, hend⟩ := run_scale_all Command.restart.name
        (.ok (some Command.restart.target)) (counts .restart) hfetched
      -- `n` scalings were made before the first fault, if there was one.
      rcases n with _ | _ | _ | n
      · rw [reply_noted] at hend
        exact .inl ⟨.inr hend.1, hlast⟩
      · have hdown := hbefore 0 Nat.one_pos
        rw [reply_noted] at hdown hend
        exact .inr (.inl ⟨⟨by simp [hget], by simp [hdown], hend.1⟩, hlast⟩)
      · exact .inr (.inr hend)
      · exact absurd hn (by simp [counts])

end Restart

end Controller

open Cluster

/-- Undeploying until an attempt meets no fault leaves neither the deployment nor the policy, unless
there is a policy and the first attempt that gets to delete the deployment fails to delete it. -/
theorem undeploy_retried {settings : Settings} {broker : Broker} {controller : Controller}
    {hasCluster : Bool} (hmode : settings.mode = .kubernetesOvn)
    (hcontroller : Controller.ofSettings settings broker hasCluster = .ok controller)
    {node : Node} (hnode : broker.directory.node node.id = .ok (some node))
    {ref : WorkloadRef} (hid : ref.id ≠ "") (attempts : List (List ClusterReply))
    {script : Script}
    (hdeployed : (script.store.deployment? (deploymentName ref.id node.serial)).isSome) :
    let after := (controller.retry node.id (.undeploy ref) (attempts ++ [[]]) script).2.store
    (after.deployment? (deploymentName ref.id node.serial) = none ∧
        after.policy? (networkPolicyName ref.id node.serial) = none) ↔
      ¬ (Controller.stranded attempts ∧
        (script.store.policy? (networkPolicyName ref.id node.serial)).isSome) := by
  have hserial : (Controller.placing settings broker .networkPolicy).serial node.id =
      .ok node.serial := Placing.serial_eq hnode
  obtain ⟨hgone, hpolicy⟩ := Controller.store_retry_present
    (Controller.backend_of_ovn_mode hmode hcontroller) hserial hid rfl attempts hdeployed
  intro after
  rw [hgone, hpolicy]
  by_cases hstranded : Controller.stranded attempts
  · simp [hstranded]
  · simp [hstranded]

/-- Two attempts that both fail at the deployment do no harm. -/
theorem undeploy_retried_late :
    let attempts : List (List ClusterReply) := [[.hang], [.fail .serialization]]
    let after := (Sample.controller.retry Sample.node.id (.undeploy Sample.ref)
      (attempts ++ [[]]) (Sample.script (Sample.store 1) [])).2.store
    after.deployment? (deploymentName Sample.ref.id Sample.node.serial) = none ∧
      after.policy? (networkPolicyName Sample.ref.id Sample.node.serial) = none := by
  intro attempts
  have hid : Sample.ref.id ≠ "" := by decide
  have hdeployed : ((Sample.script (Sample.store 1) []).store.deployment?
      (deploymentName Sample.ref.id Sample.node.serial)).isSome := by
    decide
  have hstranded : ¬ (Controller.stranded attempts ∧ ((Sample.script (Sample.store 1) []).store.policy?
      (networkPolicyName Sample.ref.id Sample.node.serial)).isSome) := by
    decide
  exact (undeploy_retried rfl Sample.of_settings Sample.node_known hid attempts hdeployed).2 hstranded

/-- An attempt that fails at the policy leaves it for good. -/
theorem policy_stranded :
    let after := (Sample.controller.retry Sample.node.id (.undeploy Sample.ref)
      ([[.perform, .hang]] ++ [[]]) (Sample.script (Sample.store 1) [])).2.store
    ¬ (after.deployment? (deploymentName Sample.ref.id Sample.node.serial) = none ∧
      after.policy? (networkPolicyName Sample.ref.id Sample.node.serial) = none) := by
  decide +kernel

/-- A restart of a running workload that fails leaves it running, and another restart goes well,
unless it was cut in half: then no copy is left and another restart is refused. -/
theorem restart_again {settings : Settings} {broker : Broker} {controller : Controller}
    {hasCluster : Bool} (hmode : settings.mode.usesCluster)
    (hcontroller : Controller.ofSettings settings broker hasCluster = .ok controller)
    {node : Node} (hnode : broker.directory.node node.id = .ok (some node))
    {ref : WorkloadRef} (hid : ref.id ≠ "") {script : Script} {current : Deployment}
    (hfound : script.store.deployment? (deploymentName ref.id node.serial) = some current)
    (hrunning : current.replicas > 0) {error : Error}
    (hfailed : ((controller.carryOut node.id (.command ref .restart)).run Script.world script).1 =
      .error error) :
    let after := ((controller.carryOut node.id (.command ref .restart)).run Script.world script).2
    let again := ((controller.carryOut node.id (.command ref .restart)).run Script.world
      (after.facing [])).1
    if script.Halves then
      (∃ deployment, after.store.deployment? (deploymentName ref.id node.serial) =
          some deployment ∧ deployment.replicas = 0) ∧
        again = .error (.failedPrecondition (.command .restart .stopped))
    else
      (∃ deployment, after.store.deployment? (deploymentName ref.id node.serial) =
          some deployment ∧ deployment.replicas > 0) ∧
        again = .ok (some .running) := by
  obtain ⟨route, hbackend⟩ := Controller.backend_of_cluster_mode hmode hcontroller
  have hserial : (Controller.placing settings broker route).serial node.id = .ok node.serial :=
    Placing.serial_eq hnode
  intro after again
  obtain ⟨hfault, hleft⟩ | ⟨hhalves, hleft⟩ | hended :=
    Controller.restart_cases hbackend hserial hid hfound hrunning
  · have hwhole : ¬ script.Halves := by
      rintro ⟨hget, hdown, -⟩
      exact hfault.elim hget hdown
    rw [if_neg hwhole]
    have hstill : (after.facing []).store.deployment? (deploymentName ref.id node.serial) =
        some current := by
      rw [Script.store_facing, hleft]
    have hsteady : (after.facing []).Steady := rfl
    refine ⟨⟨current, hstill, hrunning⟩, ?_⟩
    obtain ⟨hmet, -⟩ | ⟨⟨-, -, hmet⟩, -⟩ | hended :=
      Controller.restart_cases hbackend hserial hid hstill hrunning
    · simp only [hsteady.is_fault, Bool.false_eq_true, or_self] at hmet
    · simp only [hsteady.is_fault, Bool.false_eq_true] at hmet
    · exact hended
  · rw [if_pos hhalves]
    have hzero : (current.scaled 0).replicas? = some 0 :=
      current.replicas_scaled 0 (current.spec_of_positive hrunning)
    have hnone : (current.scaled 0).replicas = 0 := by
      rw [Deployment.replicas, hzero]
      rfl
    have hstopped : (current.scaled 0).runState = .stopped := if_neg (by rw [hnone]; decide)
    have hscaled : (after.facing []).store.deployment? (deploymentName ref.id node.serial) =
        some (current.scaled 0) := by
      rw [Script.store_facing, hleft]
    refine ⟨⟨current.scaled 0, hscaled, hnone⟩, ?_⟩
    have hrefused : Command.restart.allowed (current.scaled 0).runState = false := by
      rw [hstopped]
      rfl
    have hended := Controller.run_command_refused hbackend hserial hid hscaled rfl hrefused
    rw [hstopped] at hended
    exact congrArg Prod.fst hended
  · cases hfailed.symm.trans hended

/-- A restart whose first scaling meets a fault can be carried out again. -/
theorem restart_again_early :
    let ended := (Sample.controller.carryOut Sample.node.id (.command Sample.ref .restart)).run
      Script.world (Sample.script (Sample.store 2) [.perform, .fail .serialization])
    ((Sample.controller.carryOut Sample.node.id (.command Sample.ref .restart)).run Script.world
      (ended.2.facing [])).1 = .ok (some .running) := by
  have hfound : (Sample.script (Sample.store 2) [.perform, .fail .serialization]).store.deployment?
      (deploymentName Sample.ref.id Sample.node.serial) = some (Sample.deployment 2) := by
    decide +kernel
  have hnot : ((Sample.controller.carryOut Sample.node.id (.command Sample.ref .restart)).run
      Script.world (Sample.script (Sample.store 2) [.perform, .fail .serialization])).1.isOk =
        false := by
    decide +kernel
  obtain ⟨error, hfailed⟩ := exists_error hnot
  have hagain := restart_again rfl Sample.of_settings Sample.node_known (by decide) hfound
    (by decide +kernel) hfailed
  rw [if_neg (by decide)] at hagain
  exact hagain.2

/-- A restart that is cut in half leaves no copy, and another one is refused. -/
theorem restart_halved :
    let ended := (Sample.controller.carryOut Sample.node.id (.command Sample.ref .restart)).run
      Script.world (Sample.script (Sample.store 1) [.perform, .perform, .hang])
    ended.1.isOk = false ∧
      (ended.2.store.deployment? (deploymentName Sample.ref.id Sample.node.serial)).map
        Deployment.replicas = some 0 ∧
      Verdict.of ((Sample.controller.carryOut Sample.node.id (.command Sample.ref .restart)).run
        Script.world (ended.2.facing [])).1 = .failedPrecondition := by
  decide +kernel

end EdgeFleet
