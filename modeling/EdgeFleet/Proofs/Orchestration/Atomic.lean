import EdgeFleet.Proofs.Orchestration.Objects

/-!
# Operations that write once

An operation that changes the cluster by its last call only, and that ends well as soon as this call
is answered, either succeeds or leaves the cluster as it was: `Program.WritesLast.run`. Deploying,
redeploying, starting, stopping, asking for the status and setting or removing a policy are such
operations where policies are network policies. `single_write_atomic` is the main result: they fail
without a trace, and where they succeed they have changed no object but their own.
-/

namespace EdgeFleet

/-- Whether a call can change what the cluster keeps. -/
def Call.writes : Call → Bool
  | .cluster (.countNodes _) | .cluster (.getDeployment _) => false
  | .cluster _ => true
  | .register _ | .dial _ _ | .agent _ _ _ => false

namespace Script

open Cluster

variable (script : Script) {call : Call}

/-- A call that only reads leaves the cluster as it was. -/
theorem store_answer_read (h : call.writes = false) :
    (script.answer call).2.store = script.store := by
  cases call with
  | cluster request =>
      rw [answer_cluster, store_noted]
      rcases cluster_outcome_cases (script.reply 0) script.store request with hsame | ⟨-, hstore⟩
      · exact hsame
      · rw [hstore]
        cases request with
        | countNodes nodeId => rfl
        | getDeployment name => rfl
        | _ => cases h
  | _ => rfl

/-- So does a call that fails or hangs. -/
theorem store_answer_unanswered (h : ∀ answer, (script.answer call).1 ≠ .answered answer) :
    (script.answer call).2.store = script.store := by
  cases call with
  | cluster request =>
      rw [answer_cluster] at h ⊢
      rcases cluster_outcome_cases (script.reply 0) script.store request with
        hsame | ⟨⟨answer, hanswer⟩, -⟩
      · exact hsame
      · exact absurd hanswer (h answer)
  | _ => rfl

end Script

namespace Program

open Cluster

variable {α β : Type}

/-- A program that changes nothing in the cluster. -/
abbrev Reads (program : Program α) : Prop :=
  program.Only fun call => call.writes = false

/-- A single request that changes nothing. -/
theorem reads_ask {request : Request} (h : (Call.cluster request).writes = false) :
    (ask request).Reads :=
  only_make h

/-- A program writes last if it ends well as soon as a call that can change the cluster is
answered. -/
def WritesLast : Program α → Prop
  | .done _ => True
  | .call made next =>
    (made.writes → ∀ answer, ∃ value, next (.ok answer) = .done (.ok value)) ∧
      ∀ result, (next result).WritesLast

/-- A program that goes on only from what a calculation comes to. -/
theorem WritesLast.lift {result : Except Error α} {next : α → Program β}
    (h : ∀ value, result = .ok value → (next value).WritesLast) :
    ((liftM result : Program α) >>= next).WritesLast := by
  cases result with
  | ok value => exact h value rfl
  | error error => trivial

/-- A program that only reads and then goes on with one that writes last. -/
theorem WritesLast.after {program : Program α} (h : program.Reads) {next : α → Program β}
    (hnext : ∀ value, (next value).WritesLast) :
    (program >>= next).WritesLast := by
  induction program with
  | done result =>
      cases result with
      | ok value => exact hnext value
      | error error => trivial
  | call made rest ih =>
      refine ⟨fun hwrites => ?_, fun result => ih result (h.2 result)⟩
      rw [h.1] at hwrites
      cases hwrites

/-- What a program reports may be taken further. -/
theorem WritesLast.report {program : Program α} (h : program.WritesLast) (f : α → β) :
    (program >>= fun value => .done (.ok (f value))).WritesLast := by
  induction program with
  | done result => cases result <;> trivial
  | call made rest ih =>
      refine ⟨fun hwrites answer => ?_, fun result => ih result (h.2 result)⟩
      obtain ⟨value, hvalue⟩ := h.1 hwrites answer
      refine ⟨f value, ?_⟩
      show (rest (.ok answer) >>= fun value => .done (.ok (f value))) = .done (.ok (f value))
      rw [hvalue]
      rfl

/-- A single request at the end. -/
theorem writes_last_ask (request : Request) : (ask request).WritesLast := by
  refine ⟨fun _ answer => ⟨answer, rfl⟩, fun result => ?_⟩
  cases result with
  | ok answer => trivial
  | error failure => trivial

/-- A program that writes last and fails leaves the cluster as it was. -/
theorem WritesLast.run {program : Program α} (h : program.WritesLast) (operation : String)
    {script : Script} {error : Error}
    (hfailed : (program.run Script.world operation script).1 = .error error) :
    (program.run Script.world operation script).2.store = script.store := by
  induction program generalizing script with
  | done result => rfl
  | call made next ih =>
      simp only [Program.run, Script.world] at hfailed ⊢
      cases hanswer : script.answer made with
      | mk outcome after =>
          have hunanswered := @Script.store_answer_unanswered script made
          rw [hanswer] at hfailed hunanswered
          cases outcome with
          | failed failure =>
              -- What comes after a failure may write, but leaves no trace if it fails too.
              exact (ih (.error failure) (h.2 _) hfailed).trans (hunanswered (by simp))
          | hung => exact hunanswered (by simp)
          | answered answer =>
              cases hwrites : made.writes with
              | true =>
                  -- Once the write is answered, the program has succeeded.
                  obtain ⟨value, hvalue⟩ := h.1 hwrites answer
                  simp only [hvalue, run_done] at hfailed
                  cases hfailed
              | false =>
                  have hread := script.store_answer_read hwrites
                  rw [hanswer] at hread
                  exact (ih (.ok answer) (h.2 _) hfailed).trans hread

end Program

namespace Cluster.Placing

variable (placing : Placing) (nodeId : String)

/-- Fetching a deployment only reads. -/
theorem existing_reads (name : String) (ref : WorkloadRef) : (existing name ref).Reads := by
  refine .bind (Program.reads_ask rfl) fun (found : Option Deployment) => ?_
  cases found <;> trivial

/-- Deploying writes last: everything that may refuse it comes before the creation. -/
theorem deploy_writes_last (workload : Workload) :
    (placing.deploy nodeId workload).WritesLast := by
  refine .lift fun serial _ => .lift fun deployment _ => ?_
  refine .after (Program.reads_ask rfl) fun (count : Nat) => ?_
  match count with
  | 0 => trivial
  | 1 => exact Program.writes_last_ask _
  | _ + 2 => trivial

/-- Redeploying writes last. -/
theorem redeploy_writes_last (workload : Workload) :
    (placing.redeploy nodeId workload).WritesLast :=
  .lift fun _ _ => .after (existing_reads _ _) fun _ => .lift fun _ _ => Program.writes_last_ask _

/-- Commands other than a restart write last. -/
theorem command_writes_last (ref : WorkloadRef) {command : Command} (h : command ≠ .restart) :
    (placing.command nodeId ref command).WritesLast := by
  refine .lift fun serial _ => .after (existing_reads _ _) fun _ => .lift fun _ _ => ?_
  cases command with
  | start => exact Program.writes_last_ask _
  | stop => exact Program.writes_last_ask _
  | restart => exact absurd rfl h

/-- Asking for the status writes nothing. -/
theorem status_writes_last (ref : WorkloadRef) : (placing.status nodeId ref).WritesLast :=
  .lift fun _ _ => .after (existing_reads _ _) fun _ => trivial

variable {placing} (hroute : placing.policies = .networkPolicy)
include hroute

/-- Setting a network policy writes last. -/
theorem set_policy_writes_last (ref : WorkloadRef) (payload : PolicyPayload) :
    (placing.setPolicy nodeId ref payload).WritesLast := by
  simp only [setPolicy, hroute]
  cases payload with
  | native policy => trivial
  | cluster policy => exact .lift fun _ _ => .lift fun _ _ => Program.writes_last_ask _

/-- So does removing one, whether there is one or not. -/
theorem delete_policy_writes_last (ref : WorkloadRef) :
    (placing.deletePolicy nodeId ref).WritesLast := by
  simp only [deletePolicy, hroute]
  exact .lift fun _ _ => (Program.writes_last_ask _).report fun _ => ()

end Cluster.Placing

/-- The object that a job with a single write is about, by the serial number of its node. Restarting
and undeploying write twice. -/
def Job.soleObject? : Job → Option (String → Cluster.ObjectKey)
  | .action (.deploy workload) | .action (.redeploy workload) =>
    some fun serial => .deployment (Cluster.deploymentName workload.id serial)
  | .action (.command ref .start) | .action (.command ref .stop) | .status ref =>
    some fun serial => .deployment (Cluster.deploymentName ref.id serial)
  | .setPolicy ref _ | .deletePolicy ref =>
    some fun serial => .policy (Cluster.networkPolicyName ref.id serial)
  | _ => none

namespace Controller

open Cluster

variable {controller : Controller} {placing : Placing} {nodeId : String} {job : Job}
  {object : String → ObjectKey}

/-- The object of a job with a single write is the only one that the job is about. -/
theorem objects_sole (hjob : job.soleObject? = some object) :
    job.objects placing nodeId =
      {key | ∃ node, placing.directory.node nodeId = .ok (some node) ∧ key = object node.serial} := by
  cases job with
  | action given =>
      cases given with
      | command ref command =>
          cases command with
          | restart => cases hjob
          | _ =>
              obtain rfl := Option.some.inj hjob
              rfl
      | undeploy ref => cases hjob
      | _ =>
          obtain rfl := Option.some.inj hjob
          rfl
  | status ref =>
      obtain rfl := Option.some.inj hjob
      rfl
  | setPolicy ref payload =>
      obtain rfl := Option.some.inj hjob
      rfl
  | deletePolicy ref =>
      obtain rfl := Option.some.inj hjob
      rfl
  | _ => cases hjob

/-- A job with a single write writes last. -/
theorem perform_writes_last (hbackend : controller.backend = placing.backend)
    (hroute : placing.policies = .networkPolicy) (nodeId : String)
    (hjob : job.soleObject? = some object) :
    (controller.perform nodeId job).program.WritesLast := by
  cases job with
  | action given =>
      refine Program.WritesLast.report ?_ fun _ => ()
      cases given with
      | deploy workload =>
          simp only [carryOut, Operation.map, deploy, hbackend]
          refine .report (.lift fun _ _ => ?_) _
          exact (placing.deploy_writes_last nodeId workload).report fun _ => Status.deployed
      | redeploy workload =>
          simp only [carryOut, Operation.map, redeploy, hbackend]
          exact .report (.lift fun _ _ => placing.redeploy_writes_last nodeId workload) _
      | command ref command =>
          have hcommand : command ≠ .restart := by
            rintro rfl
            cases hjob
          simp only [carryOut, Operation.map, Controller.command, hbackend]
          refine .report (.lift fun _ _ => ?_) _
          exact (placing.command_writes_last nodeId ref hcommand).report fun _ => command.target
      | undeploy ref => cases hjob
  | status ref =>
      simp only [perform, Operation.map, status, hbackend]
      exact .report (.lift fun _ _ => placing.status_writes_last nodeId ref) _
  | setPolicy ref payload =>
      simp only [perform, setPolicy, hbackend]
      exact .lift fun _ _ => .lift fun _ _ => .lift fun _ _ =>
        placing.set_policy_writes_last nodeId hroute ref payload
  | deletePolicy ref =>
      simp only [perform, deletePolicy, hbackend]
      exact .lift fun _ _ => placing.delete_policy_writes_last nodeId hroute ref
  | _ => cases hjob

end Controller

open Cluster in
/-- Where policies are network policies, a job with a single write that fails leaves all deployments
and all network policies as they were, whatever calls met faults before. However it ends, nothing
has changed but the object that is named after the workload of the job and the serial number of the
node. -/
theorem single_write_atomic {settings : Settings} {broker : Broker} {hasCluster : Bool}
    {controller : Controller} (hmode : settings.mode = .kubernetesOvn)
    (hcontroller : Controller.ofSettings settings broker hasCluster = .ok controller) {job : Job}
    {object : String → ObjectKey} (hjob : job.soleObject? = some object) (nodeId : String)
    (script : Script) :
    let ended := (controller.perform nodeId job).run Script.world script
    (∀ error, ended.1 = .error error →
      ended.2.store.deployments = script.store.deployments ∧
        ended.2.store.policies = script.store.policies) ∧
    ∀ key, (∀ node, broker.directory.node nodeId = .ok (some node) → key ≠ object node.serial) →
      ended.2.store.AgreesAt script.store key := by
  have hbackend := Controller.backend_of_ovn_mode hmode hcontroller
  intro ended
  constructor
  · intro error hfailed
    have hstore : ended.2.store = script.store :=
      (Controller.perform_writes_last hbackend rfl nodeId hjob).run _ hfailed
    rw [hstore]
    exact ⟨rfl, rfl⟩
  · intro key hkey
    refine (Controller.perform_touches hbackend nodeId job).agrees _ script ?_
    rw [Controller.objects_sole hjob]
    rintro ⟨node, hnode, rfl⟩
    exact hkey node hnode rfl

open Cluster Sample in
/-- A start whose scaling never returns fails and leaves the stopped deployment, and the policy, as
they were. A start that goes well leaves the policy alone. -/
theorem single_write_atomic_start :
    let start := Sample.controller.perform node.id (.action (.command ref .start))
    let hung := start.run Script.world (Sample.script (store 0) [.perform, .hang])
    let started := start.run Script.world (Sample.script (store 0) [])
    hung.1.isOk = false ∧ hung.2.store.deployments = (store 0).deployments ∧
      hung.2.store.policies = (store 0).policies ∧
      started.1 = .ok () ∧ started.2.store.deployments ≠ (store 0).deployments ∧
      started.2.store.policy? (networkPolicyName ref.id node.serial) =
        (store 0).policy? (networkPolicyName ref.id node.serial) := by
  intro start hung started
  have hfails : hung.1.isOk = false := by decide +kernel
  have hends : started.1 = .ok () := by decide +kernel
  have hchanged : started.2.store.deployments ≠ (store 0).deployments := by decide +kernel
  obtain ⟨error, herror⟩ := exists_error hfails
  have hatomic := fun replies => single_write_atomic rfl of_settings
    (rfl : (Job.action (.command ref .start)).soleObject? = some _) node.id
    (Sample.script (store 0) replies)
  obtain ⟨hdeployments, hpolicies⟩ := (hatomic [.perform, .hang]).1 error herror
  have hkept := (hatomic []).2 (.policy (networkPolicyName ref.id node.serial)) (by simp)
  exact ⟨hfails, hdeployments, hpolicies, hends, hchanged, hkept⟩

end EdgeFleet
