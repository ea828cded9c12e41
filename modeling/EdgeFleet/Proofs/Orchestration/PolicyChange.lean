import EdgeFleet.Proofs.Orchestration.Objects

/-!
# What jobs do to network policies

`PolicyChange` lists what a job can do to the network policies of the cluster, and `policy_change`
says that there are no other possibilities: a job sets the policy of a workload, removes it, or
leaves all policies alone.
-/

namespace EdgeFleet

/-- Whether a call is a request about a network policy. -/
def Call.isPolicyRequest : Call → Bool
  | .cluster (.applyNetworkPolicy _) | .cluster (.deleteNetworkPolicy _) => true
  | _ => false

/-- A program that makes no request about network policies. -/
abbrev Program.LeavesPolicies {α : Type} (program : Program α) : Prop :=
  program.Only fun call => call.isPolicyRequest = false

/-- A call that is no request about a network policy leaves all of them alone. -/
theorem Script.policies_answer (script : Script) {call : Call} (h : call.isPolicyRequest = false) :
    (script.answer call).2.store.policies = script.store.policies := by
  cases call with
  | cluster request =>
      rw [answer_cluster, store_noted]
      rcases cluster_outcome_cases (script.reply 0) script.store request with hsame | ⟨-, hstore⟩
      · rw [hsame]
      · rw [hstore]
        cases request with
        | createDeployment deployment =>
            simp only [Cluster.Store.perform]
            split <;> rfl
        | scaleDeployment name replicas =>
            simp only [Cluster.Store.perform]
            split <;> rfl
        | applyNetworkPolicy policy => cases h
        | deleteNetworkPolicy name => cases h
        | _ => rfl
  | _ => rfl

/-- A program that makes no request about network policies leaves all of them alone. -/
theorem Program.LeavesPolicies.run {α : Type} {program : Program α} (h : program.LeavesPolicies)
    (operation : String) (script : Script) :
    (program.run Script.world operation script).2.store.policies = script.store.policies :=
  let holds (state : Script) : Prop := state.store.policies = script.store.policies
  have hkeeps (state : Script) (call : Call) (hallowed : call.isPolicyRequest = false)
      (hstate : holds state) : holds (Script.world.answer state call).2 :=
    (state.policies_answer hallowed).trans hstate
  Program.run_keeps Script.world operation hkeeps h rfl

/-- A program that touches no network policy makes no request about one. -/
theorem Program.Touches.leaves_policies {α : Type} {program : Program α}
    {keys : Set Cluster.ObjectKey} (h : program.Touches keys)
    (hkeys : ∀ name, .policy name ∉ keys) : program.LeavesPolicies := by
  refine Only.mono (fun call hcall => ?_) h
  cases call with
  | cluster request =>
      cases request with
      | applyNetworkPolicy policy => exact absurd (hcall _ _ rfl rfl) (hkeys _)
      | deleteNetworkPolicy name => exact absurd (hcall _ _ rfl rfl) (hkeys _)
      | _ => rfl
  | _ => rfl

/-- A job that is not about the policy of a workload makes no request about network policies. -/
theorem Controller.perform_leaves {controller : Controller} {placing : Cluster.Placing}
    (hbackend : controller.backend = placing.backend) (nodeId : String) {job : Job}
    (h : job.policyOn? = none) : (controller.perform nodeId job).program.LeavesPolicies := by
  refine (perform_touches hbackend nodeId job).leaves_policies fun name => ?_
  cases job with
  | action action =>
      cases action with
      | undeploy ref => cases h
      | _ =>
          rintro ⟨node, -, heq⟩
          cases heq
  | status ref =>
      rintro ⟨node, -, heq⟩
      cases heq
  | setPolicy ref payload => cases h
  | deletePolicy ref => cases h
  | _ => exact Set.notMem_empty _

open Cluster Placing in
/-- What a job for a node does to the network policies of a cluster, by how it ends. -/
inductive PolicyChange (placing : Placing) (nodeId : String) (job : Job) (before after : Store) :
    Except Error Unit → Prop
  /-- A job that is not about the policy of a workload leaves all policies alone. -/
  | other {result : Except Error Unit} (hjob : job.policyOn? = none)
      (hkept : after.policies = before.policies) :
      PolicyChange placing nodeId job before after result
  /-- So does a job that fails. -/
  | failed {error : Error} (hkept : after.policies = before.policies) :
      PolicyChange placing nodeId job before after (.error error)
  /-- What is set is translated, and put in the place of any other. -/
  | set {node : Node} {id : String} {payload : PolicyPayload} {object : NetworkPolicy}
      (hnode : placing.directory.node nodeId = .ok (some node))
      (hjob : job.policyOn? = some id) (hgiven : job.given? = some payload)
      (hobject : placing.policyFor id node.serial payload = .ok object)
      (hput : ∀ name, after.policy? name =
        if name = networkPolicyName id node.serial then some object else before.policy? name) :
      PolicyChange placing nodeId job before after (.ok ())
  /-- What is removed is gone. -/
  | removed {node : Node} {id : String} (hnode : placing.directory.node nodeId = .ok (some node))
      (hjob : job.policyOn? = some id) (hgiven : job.given? = none)
      (hgone : ∀ name, after.policy? name =
        if name = networkPolicyName id node.serial then none else before.policy? name) :
      PolicyChange placing nodeId job before after (.ok ())

open Cluster Placing in
/-- Whatever a job does to network policies, it does to the one of the workload that it is about,
and only if it ends well. -/
theorem PolicyChange.confined {placing : Placing} {nodeId : String} {job : Job}
    {before after : Store} {result : Except Error Unit}
    (h : PolicyChange placing nodeId job before after result) :
    after.policies = before.policies ∨
      result = .ok () ∧ ∃ node id, placing.directory.node nodeId = .ok (some node) ∧
        job.policyOn? = some id ∧ ∀ name, name ≠ networkPolicyName id node.serial →
          after.policy? name = before.policy? name := by
  cases h with
  | other hjob hkept => exact .inl hkept
  | failed hkept => exact .inl hkept
  | @set node id _ _ hnode hjob _ _ hput =>
      exact .inr ⟨rfl, node, id, hnode, hjob, fun name hname => (hput name).trans (if_neg hname)⟩
  | @removed node id hnode hjob _ hgone =>
      exact .inr ⟨rfl, node, id, hnode, hjob, fun name hname => (hgone name).trans (if_neg hname)⟩

namespace Controller

open Cluster Placing Script

variable {controller : Controller} {placing : Placing} {nodeId : String} {script : Script}
  (hbackend : controller.backend = placing.backend) (hroute : placing.policies = .networkPolicy)
include hbackend hroute

/-- A job about the policy of a workload without an ID, or on a node that is not known, fails before
its first call. -/
theorem perform_fails {job : Job} {id : String} (hjob : job.policyOn? = some id)
    (h : id = "" ∨ ∃ error, placing.serial nodeId = .error error) :
    ∃ error, (controller.perform nodeId job).program = .done (.error error) := by
  have hchecked : ∀ ref : WorkloadRef, ref.id = id → ∀ next : Unit → Program Unit,
      (∀ error, placing.serial nodeId = .error error → ∃ error, next () = .done (.error error)) →
        ∃ error, ((liftM (checkRef ref) : Program Unit) >>= next) = .done (.error error) := by
    intro ref hid next hnext
    cases hcheck : checkRef ref with
    | error error => exact ⟨error, rfl⟩
    | ok =>
        obtain rfl | ⟨error, herror⟩ := h
        · simp [checkRef, hid] at hcheck
        · exact hnext error herror
  cases job with
  | setPolicy ref payload =>
      refine hchecked ref (Option.some.inj hjob) _ fun error herror => ?_
      cases hkind : controller.checkKind payload with
      | error error => exact ⟨error, rfl⟩
      | ok =>
          cases hpayload : payload.check with
          | error violation => exact ⟨_, rfl⟩
          | ok =>
              simp only [hbackend, Placing.backend, Placing.setPolicy, hroute, herror]
              cases payload <;> exact ⟨_, rfl⟩
  | deletePolicy ref =>
      refine hchecked ref (Option.some.inj hjob) _ fun error herror => ⟨error, ?_⟩
      simp only [hbackend, Placing.backend, Placing.deletePolicy, hroute, herror]
      rfl
  | action action =>
      cases action with
      | undeploy ref =>
          obtain ⟨error, hfails⟩ := hchecked ref (Option.some.inj hjob)
            (fun _ => controller.backend.undeploy nodeId ref) fun error herror =>
              ⟨error, by simp only [hbackend, Placing.backend, Placing.undeploy, herror]; rfl⟩
          refine ⟨error, ?_⟩
          simp only [perform, carryOut, Operation.map, undeploy, hfails, Program.map_eq,
            Program.done_error_bind]
      | _ => cases hjob
  | _ => cases hjob

variable {node : Node} {ref : WorkloadRef}
  (hnode : placing.directory.node nodeId = .ok (some node)) (hid : ref.id ≠ "")
include hnode hid

/-- Setting the policy of a workload on a known node fails before its first call, or puts the
translation in place. -/
theorem perform_set_policy (payload : PolicyPayload) :
    (∃ error, (controller.perform nodeId (.setPolicy ref payload)).program =
        .done (.error error)) ∨
      ∃ object, placing.policyFor ref.id node.serial payload = .ok object ∧
        (controller.perform nodeId (.setPolicy ref payload)).program =
          .proceed (.cluster (.applyNetworkPolicy object)) fun _ => .done (.ok ()) := by
  simp only [perform, setPolicy, check_ref_ok hid, hbackend, Placing.backend,
    Program.monad_lift_eq, Program.done_ok_bind]
  cases hkind : controller.checkKind payload with
  | error error => exact .inl ⟨error, rfl⟩
  | ok =>
      cases hpayload : payload.check with
      | error violation => exact .inl ⟨_, rfl⟩
      | ok =>
          cases hobject : placing.policyFor ref.id node.serial payload with
          | error error =>
              exact .inl ⟨error, set_policy_fails (serial_eq hnode) ref hroute hobject⟩
          | ok object =>
              exact .inr ⟨object, rfl, set_policy_calls (serial_eq hnode) ref hroute hobject⟩

/-- Removing the policy of a workload on a known node is a single deletion. -/
theorem perform_delete_policy :
    (controller.perform nodeId (.deletePolicy ref)).program =
      .proceed (.cluster (.deleteNetworkPolicy (networkPolicyName ref.id node.serial))) fun _ =>
        .done (.ok ()) := by
  simp only [perform, deletePolicy, check_ref_ok hid, hbackend, Placing.backend,
    delete_policy_calls (serial_eq hnode) ref hroute, Program.monad_lift_eq, Program.done_ok_bind]

/-- Undeploying a workload on a known node deletes its deployment and, if there was one, its
policy. -/
theorem perform_undeploy :
    (controller.perform nodeId (.action (.undeploy ref))).program =
      .proceed (.cluster (.deleteDeployment (deploymentName ref.id node.serial)))
        fun (existed : Bool) =>
          if existed then
            .proceed (.cluster (.deleteNetworkPolicy (networkPolicyName ref.id node.serial)))
              fun _ => .done (.ok ())
          else .done (.error
            (.notFound (.deploymentOf (deploymentName ref.id node.serial) ref))) := by
  simp only [perform, Operation.map, Program.map_eq,
    carry_out_undeploy hbackend (serial_eq hnode) hid hroute]
  refine (Program.proceed_bind _ _ _).trans (congrArg (Program.proceed
    (.cluster (.deleteDeployment (deploymentName ref.id node.serial)))) (funext fun existed => ?_))
  cases existed with
  | false => rfl
  | true => exact Program.proceed_bind _ _ _

omit hnode hid
variable (nodeId)

/-- Over a cluster whose calls do not fail, no job does anything else to network policies than
`PolicyChange` says. -/
theorem policy_change (hfaultless : script.Faultless) (job : Job) :
    let ended := (controller.perform nodeId job).run world script
    PolicyChange placing nodeId job script.store ended.2.store ended.1 := by
  -- Jobs about a policy are told apart only once they are known to get as far as the cluster.
  cases hjob : job.policyOn? with
  | none => exact .other hjob (Program.LeavesPolicies.run (perform_leaves hbackend nodeId hjob) _ _)
  | some id =>
      by_cases hfails : id = "" ∨ ∃ error, placing.serial nodeId = .error error
      · obtain ⟨error, hprogram⟩ := perform_fails hbackend hroute hjob hfails
        simp only [Operation.run, hprogram, Program.run_done]
        exact .failed rfl
      · obtain ⟨hid, hknown⟩ := not_or.1 hfails
        obtain ⟨node, hnode, -⟩ := (placing.serial_cases nodeId).resolve_left hknown
        cases job with
        | setPolicy ref payload =>
            obtain rfl : ref.id = id := Option.some.inj hjob
            obtain ⟨error, hprogram⟩ | ⟨object, hobject, hprogram⟩ :=
              perform_set_policy hbackend hroute hnode hid payload
            · simp only [Operation.run, hprogram, Program.run_done]
              exact .failed rfl
            · obtain ⟨hname, -⟩ := policy_for_spec hobject
              simp only [Operation.run, hprogram]
              rw [run_performed (hfaultless.performs (by simp)), Store.perform_apply_policy, hname]
              exact .set hnode hjob rfl hobject fun _ => Store.policy_put_policy _ _ _ _
        | deletePolicy ref =>
            obtain rfl : ref.id = id := Option.some.inj hjob
            simp only [Operation.run, perform_delete_policy hbackend hroute hnode hid]
            rw [run_performed (hfaultless.performs (by simp)), Store.perform_delete_policy]
            exact .removed hnode hjob rfl fun _ => Store.policy_drop_policy _ _ _
        | action action =>
            cases action with
            | undeploy ref =>
                obtain rfl : ref.id = id := Option.some.inj hjob
                simp only [Operation.run, perform_undeploy hbackend hroute hnode hid]
                rw [run_performed (hfaultless.performs (by simp)), Store.perform_delete_deployment]
                cases hfound : script.store.deployment? (deploymentName ref.id node.serial) with
                | none => exact .failed rfl
                | some deployment =>
                    simp only [Option.isSome_some, if_true]
                    rw [run_performed (hfaultless.noted.performs (by simp)),
                      Store.perform_delete_policy]
                    exact .removed hnode hjob rfl fun _ => Store.policy_drop_policy _ _ _
            | _ => cases hjob
        | _ => cases hjob

end Controller

end EdgeFleet
