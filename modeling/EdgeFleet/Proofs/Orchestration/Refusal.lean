import EdgeFleet.Proofs.Broker.Route
import EdgeFleet.Proofs.Orchestration.Backends
import EdgeFleet.Proofs.Orchestration.Objects

/-!
# Refused input

What has been called by the time an operation refuses its input. `Program.RefusesFirst` says of a
program that it refuses before its first call if it refuses at all, and
`Controller.perform_refuses_first` that this holds of every job but one: replacing a workload that
is kept in the cluster fetches the present deployment first, and only then finds out that the
cluster cannot keep the new one. `refusal_before_calls` puts both together.
-/

namespace EdgeFleet

/-- Whether input was refused. -/
def Error.isValidation : Error → Bool
  | .validation _ => true
  | _ => false

/-- What a node says of a call is no refusal of input. -/
@[simp] theorem Error.of_status_accepts (context : String) (status : RpcStatus) :
    (ofStatus context status).isValidation = false := by
  unfold ofStatus
  split <;> rfl

/-- A directory never refuses what it is asked for. -/
structure Directory.Accepting (directory : Directory) : Prop where
  targets : ∀ {nodeId error}, directory.targets nodeId = .error error → error.isValidation = false
  node : ∀ {nodeId error}, directory.node nodeId = .error error → error.isValidation = false

/-- Whether a call is one in which the cluster refuses what it is given. -/
def Exchange.refused : Exchange → Bool
  | ⟨.cluster _, .failed failure⟩ => (failure : Error).isValidation
  | _ => false

/-- A call that fails is a refusal of input only if the cluster refuses what it is given. -/
theorem Exchange.refused_of_failed {call : Call} (failure : call.Failure) :
    (call.error failure).isValidation = Exchange.refused ⟨call, .failed failure⟩ := by
  cases call with
  | register host => exact nomatch (failure : Empty)
  | dial nodeId route => rfl
  | agent nodeId context request => exact Error.of_status_accepts context failure
  | cluster request => rfl

namespace Program

variable {α β : Type}

/-- A program that ends in no refusal as long as the cluster refuses none of its calls. -/
def NeverRefuses : Program α → Prop
  | .done result => ∀ error, result = .error error → error.isValidation = false
  | .call made next =>
    (∀ answer, (next (.ok answer)).NeverRefuses) ∧
      ∀ failure, Exchange.refused ⟨made, .failed failure⟩ = false →
        (next (.error failure)).NeverRefuses

/-- A program that refuses its input before its first call, if at all. -/
def RefusesFirst : Program α → Prop
  | .done _ => True
  | .call made next => (Program.call made next).NeverRefuses

/-- What ends well refuses nothing. -/
theorem NeverRefuses.ok (value : α) : (Program.done (.ok value)).NeverRefuses :=
  fun _ h => nomatch h

/-- Neither does a program that goes on only with the answer to a call, and refuses nothing after
that. -/
theorem NeverRefuses.proceed {made : Call} {next : made.Answer → Program α}
    (h : ∀ answer, (next answer).NeverRefuses) : (proceed made next).NeverRefuses := by
  refine ⟨h, fun failure hmade => ?_⟩
  rintro error ⟨⟩
  exact (Exchange.refused_of_failed failure).trans hmade

/-- Neither does a single call. -/
theorem NeverRefuses.make (call : Call) : (make call).NeverRefuses :=
  .proceed fun answer => .ok answer

/-- A program that never refuses may go on with another one. -/
theorem NeverRefuses.bind {program : Program α} {next : α → Program β} (h : program.NeverRefuses)
    (hnext : ∀ value, (next value).NeverRefuses) : (program >>= next).NeverRefuses := by
  induction program with
  | done result =>
      cases result with
      | ok value => exact hnext value
      | error error =>
          rintro other ⟨⟩
          exact h error rfl
  | call made rest ih =>
      exact ⟨fun answer => ih (.ok answer) (h.1 answer),
        fun failure hmade => ih (.error failure) (h.2 failure hmade)⟩

/-- A program that never refuses does not do so after its first call. -/
theorem NeverRefuses.first {program : Program α} (h : program.NeverRefuses) :
    program.RefusesFirst := by
  cases program with
  | done result => trivial
  | call made next => exact h

/-- After a program that refuses first, another one may follow that never refuses. -/
theorem RefusesFirst.bind {program : Program α} {next : α → Program β} (h : program.RefusesFirst)
    (hnext : ∀ value, (next value).NeverRefuses) : (program >>= next).RefusesFirst := by
  cases program with
  | done result =>
      cases result with
      | ok value => exact (hnext value).first
      | error error => trivial
  | call made rest =>
      have hrest : (Program.call made rest).NeverRefuses := h
      exact hrest.bind hnext

/-- A calculation makes no call, so that a program may refuse after it. -/
theorem RefusesFirst.lift {result : Except Error α} {next : α → Program β}
    (h : ∀ value, result = .ok value → (next value).RefusesFirst) :
    ((liftM result : Program α) >>= next).RefusesFirst := by
  cases result with
  | ok value => exact h value rfl
  | error error => trivial

variable {σ : Type} {world : World σ} {operation : String} {state : σ} {error : Error}

/-- A run of a program that never refuses ends in a refusal only if the cluster refuses what it is
given. -/
theorem NeverRefuses.run {program : Program α} (h : program.NeverRefuses)
    (hcalls : ∀ exchange ∈ program.exchanges world operation state, exchange.refused = false)
    (hresult : (program.run world operation state).1 = .error error) :
    error.isValidation = false := by
  induction program generalizing state with
  | done result => exact h error hresult
  | call made next ih =>
      rw [exchanges_call] at hcalls
      simp only [Program.run] at hresult
      cases hanswer : world.answer state made with
      | mk outcome after =>
          rw [hanswer] at hcalls hresult
          obtain ⟨hmade, hrest⟩ := List.forall_mem_cons.1 hcalls
          cases outcome with
          | answered answer => exact ih _ (h.1 answer) hrest hresult
          | failed failure => exact ih _ (h.2 failure hmade) hrest hresult
          | hung =>
              obtain rfl := Except.error.inj hresult
              rfl

/-- A run of a program that refuses first has made no call by the time it ends in a refusal, unless
the cluster refuses what it is given. -/
theorem RefusesFirst.run {program : Program α} (h : program.RefusesFirst)
    (hcalls : ∀ exchange ∈ program.exchanges world operation state, exchange.refused = false)
    (hresult : (program.run world operation state).1 = .error error) (herror : error.isValidation) :
    program.exchanges world operation state = [] := by
  cases program with
  | done result => rfl
  | call made next =>
      have hnever : (Program.call made next).NeverRefuses := h
      cases herror.symm.trans (hnever.run hcalls hresult)

end Program

namespace Broker

variable {broker : Broker} (hdirectory : broker.directory.Accepting) (nodeId : String)
include hdirectory

/-- Finding the host of a node is refused by no one. -/
theorem resolve_accepts {error : Error} (h : broker.resolve nodeId = .error error) :
    error.isValidation = false := by
  simp only [resolve, bind, Except.bind] at h
  cases htargets : broker.directory.targets nodeId with
  | error failure =>
      rw [htargets] at h
      obtain rfl := Except.error.inj h
      exact hdirectory.targets htargets
  | ok targets =>
      rw [htargets] at h
      match targets, h with
      | [], h =>
          obtain rfl := Except.error.inj h
          rfl
      | [_], h => cases h
      | _ :: _ :: _, h =>
          obtain rfl := Except.error.inj h
          rfl

/-- Neither is finding the way to one of its surfaces. -/
theorem route_accepts {surface : Agent.Surface} {error : Error}
    (h : broker.route nodeId surface = .error error) : error.isValidation = false := by
  obtain hunresolved | ⟨cause, rfl⟩ := route_error h
  · exact resolve_accepts hdirectory nodeId hunresolved
  · rfl

/-- Connecting to a surface refuses nothing. -/
theorem connect_never_refuses (surface : Agent.Surface) :
    (broker.connect nodeId surface).NeverRefuses :=
  .bind (fun _ h => route_accepts hdirectory nodeId h) fun _ => .make _

/-- Neither does sending a request. -/
theorem send_never_refuses (context : String) (request : Agent.Request) :
    (broker.send nodeId context request).NeverRefuses :=
  .bind (connect_never_refuses hdirectory nodeId _) fun _ => .make _

/-- What a policy is refused for is found out before it is sent. -/
theorem push_policy_refuses_first (ref : WorkloadRef) (policy : Option TrafficPolicy) :
    (Native.pushPolicy broker nodeId ref policy).RefusesFirst :=
  .lift fun _ _ => (send_never_refuses hdirectory nodeId _ _).first

/-- Clearing a policy refuses nothing. -/
theorem clear_policy_never_refuses (ref : WorkloadRef) :
    (Native.pushPolicy broker nodeId ref none).NeverRefuses :=
  send_never_refuses hdirectory nodeId _ _

end Broker

/-- A backend refuses before its first call, except that it may not do so when it replaces a
workload. -/
structure Backend.RefusesFirst (backend : Backend) : Prop where
  deploy : ∀ nodeId workload, (backend.deploy nodeId workload).RefusesFirst
  command : ∀ nodeId ref command, (backend.command nodeId ref command).RefusesFirst
  status : ∀ nodeId ref, (backend.status nodeId ref).RefusesFirst
  undeploy : ∀ nodeId ref, (backend.undeploy nodeId ref).RefusesFirst
  setPolicy : ∀ nodeId ref payload, (backend.setPolicy nodeId ref payload).RefusesFirst
  deletePolicy : ∀ nodeId ref, (backend.deletePolicy nodeId ref).RefusesFirst

/-- Handing everything to the node refuses nothing but policies, before they are sent. -/
theorem Native.backend_refuses_first {broker : Broker} (hdirectory : broker.directory.Accepting) :
    (Native.backend broker).RefusesFirst where
  deploy nodeId _ := (Broker.send_never_refuses hdirectory nodeId _ _).first
  command nodeId _ _ := (Broker.send_never_refuses hdirectory nodeId _ _).first
  status nodeId _ :=
    (Program.NeverRefuses.bind (Broker.send_never_refuses hdirectory nodeId _ _) fun _ =>
      .ok _).first
  undeploy nodeId _ := (Broker.send_never_refuses hdirectory nodeId _ _).first
  setPolicy nodeId ref payload := by
    cases payload with
    | native policy => exact Broker.push_policy_refuses_first hdirectory nodeId ref (some policy)
    | cluster policy => trivial
  deletePolicy nodeId ref := Broker.push_policy_refuses_first hdirectory nodeId ref none

/-- Handing it a replacement refuses nothing either. -/
theorem Native.redeploy_refuses_first {broker : Broker} (hdirectory : broker.directory.Accepting)
    (nodeId : String) (workload : Workload) :
    ((Native.backend broker).redeploy nodeId workload).RefusesFirst :=
  (Broker.send_never_refuses hdirectory nodeId _ _).first

namespace Cluster

/-- Where policies go to nodes, the directory that finds them never refuses. -/
def PolicyRoute.Accepting : PolicyRoute → Prop
  | .node broker => broker.directory.Accepting
  | .networkPolicy => True

namespace Placing

/-- Fetching a deployment refuses nothing. -/
theorem existing_never_refuses (name : String) (ref : WorkloadRef) :
    (existing name ref).NeverRefuses := by
  refine .bind (.make _) ?_
  intro (found : Option Deployment)
  cases found with
  | none =>
      rintro error ⟨⟩
      rfl
  | some deployment => exact .ok deployment

/-- Neither does the check of a command. -/
theorem check_never_refuses (command : Command) (status : Status) :
    (Program.done (command.check status)).NeverRefuses := by
  unfold Command.check
  split
  · exact .ok ()
  · rintro error ⟨⟩
    rfl

variable {placing : Placing} (hdirectory : placing.directory.Accepting) (nodeId : String)
include hdirectory

/-- Finding the serial number of a node is refused by no one. -/
theorem serial_never_refuses : (Program.done (placing.serial nodeId)).NeverRefuses := by
  intro error h
  simp only [serial, bind, Except.bind] at h
  cases hnode : placing.directory.node nodeId with
  | error failure =>
      rw [hnode] at h
      obtain rfl := Except.error.inj h
      exact hdirectory.node hnode
  | ok found =>
      rw [hnode] at h
      cases found with
      | none =>
          obtain rfl := Except.error.inj h
          rfl
      | some node => cases h

/-- Removing a policy refuses nothing. -/
theorem delete_policy_never_refuses (hpolicies : placing.policies.Accepting) (ref : WorkloadRef) :
    (placing.deletePolicy nodeId ref).NeverRefuses := by
  cases hroute : placing.policies with
  | node broker =>
      rw [hroute] at hpolicies
      simp only [deletePolicy, hroute]
      exact Broker.clear_policy_never_refuses hpolicies nodeId ref
  | networkPolicy =>
      simp only [deletePolicy, hroute]
      exact .bind (serial_never_refuses hdirectory nodeId) fun _ =>
        .bind (.make _) fun _ => .ok ()

/-- Keeping workloads in the cluster refuses what cannot be kept there before the first call. -/
theorem backend_refuses_first (hpolicies : placing.policies.Accepting) :
    placing.backend.RefusesFirst where
  deploy nodeId workload := by
    refine .lift fun serial _ => .lift fun deployment _ => Program.NeverRefuses.first ?_
    refine .bind (.make _) fun (count : Nat) => ?_
    match count with
    | 0 =>
        rintro error ⟨⟩
        rfl
    | 1 => exact .make _
    | _ + 2 =>
        rintro error ⟨⟩
        rfl
  command nodeId ref command := by
    refine .lift fun serial _ => Program.NeverRefuses.first ?_
    refine .bind (existing_never_refuses _ _) fun current => ?_
    refine .bind (check_never_refuses command current.runState) fun _ => ?_
    cases command with
    | start => exact .make _
    | stop => exact .make _
    | restart => exact .bind (.make _) fun _ => .make _
  status nodeId ref := .lift fun serial _ =>
    (Program.NeverRefuses.bind (existing_never_refuses _ _) fun _ => .ok _).first
  undeploy nodeId ref := by
    refine .lift fun serial _ => Program.NeverRefuses.first (.bind (.make _) ?_)
    intro (existed : Bool)
    cases existed with
    | true => exact delete_policy_never_refuses hdirectory nodeId hpolicies ref
    | false =>
        rintro error ⟨⟩
        rfl
  setPolicy nodeId ref payload := by
    cases hroute : placing.policies with
    | node broker =>
        rw [hroute] at hpolicies
        simp only [backend, setPolicy, hroute]
        exact (Native.backend_refuses_first hpolicies).setPolicy nodeId ref payload
    | networkPolicy =>
        simp only [backend, setPolicy, hroute]
        cases payload with
        | native policy => trivial
        | cluster policy =>
            exact .lift fun _ _ => .lift fun _ _ => Program.NeverRefuses.first (.make _)
  deletePolicy nodeId ref := (delete_policy_never_refuses hdirectory nodeId hpolicies ref).first

end Placing

end Cluster

namespace DnsChange

/-- Sending records refuses nothing. -/
theorem send_records_never_refuses (change : DnsChange) (nodeId : String)
    (records : List DnsRecord) : (change.sendRecords nodeId records).NeverRefuses := by
  induction records with
  | nil => exact .ok ()
  | cons record rest ih => exact .bind (.make _) fun _ => ih

/-- Neither does sending forwarders. -/
theorem send_forwarders_never_refuses (change : DnsChange) (nodeId : String) (config : DnsConfig) :
    (change.sendForwarders nodeId config).NeverRefuses := by
  unfold sendForwarders
  split
  · exact .ok ()
  · exact .bind (.make _) fun _ => .ok ()

end DnsChange

namespace Controller

variable {settings : Settings} {broker : Broker} {hasCluster : Bool} {controller : Controller}
  (hdirectory : broker.directory.Accepting)
include hdirectory

/-- The backend of a mode refuses before its first call, unless it replaces a workload. -/
theorem backend_of_refuses_first (settings : Settings) (mode : Mode) :
    (backendOf settings broker mode).RefusesFirst := by
  cases mode with
  | native => exact Native.backend_refuses_first hdirectory
  | kubernetes =>
      have hplacing : (placing settings broker (.node broker)).directory.Accepting := hdirectory
      exact Cluster.Placing.backend_refuses_first hplacing hdirectory
  | kubernetesOvn =>
      have hplacing : (placing settings broker .networkPolicy).directory.Accepting := hdirectory
      exact Cluster.Placing.backend_refuses_first hplacing trivial

/-- What the policy of an interface is refused for is found out before it is sent. -/
theorem push_interface_policy_refuses_first (hbroker : controller.broker = broker)
    (nodeId interface : String) (policy : Option TrafficPolicy) :
    (controller.pushInterfacePolicy nodeId interface policy).RefusesFirst := by
  subst hbroker
  exact .lift fun _ _ => .lift fun _ _ =>
    (Broker.send_never_refuses hdirectory nodeId _ _).first

/-- Every job refuses before its first call, unless it replaces a workload in the cluster. -/
theorem perform_refuses_first
    (hcontroller : ofSettings settings broker hasCluster = .ok controller) (nodeId : String)
    {job : Job}
    (hjob : settings.mode.usesCluster → ∀ workload, job ≠ .action (.redeploy workload)) :
    (controller.perform nodeId job).program.RefusesFirst := by
  obtain rfl := of_settings_ok hcontroller
  have hbackend := backend_of_refuses_first hdirectory settings settings.mode
  have hok {α : Type} (value : α) := Program.NeverRefuses.ok value
  have hsend := fun context request =>
    Broker.send_never_refuses hdirectory nodeId context request
  cases job with
  | action action =>
      refine .bind ?_ fun _ => hok ()
      cases action with
      | deploy workload =>
          exact .bind (.lift fun _ _ => .bind (hbackend.deploy nodeId workload) fun _ => hok _)
            fun _ => hok _
      | redeploy workload =>
          refine .bind (.lift fun _ _ => ?_) fun _ => hok _
          cases hmode : settings.mode with
          | native => exact Native.redeploy_refuses_first hdirectory nodeId workload
          | kubernetes => exact absurd rfl (hjob (by rw [hmode]; rfl) workload)
          | kubernetesOvn => exact absurd rfl (hjob (by rw [hmode]; rfl) workload)
      | command ref command =>
          exact .bind (.lift fun _ _ => .bind (hbackend.command nodeId ref command) fun _ => hok _)
            fun _ => hok _
      | undeploy ref =>
          exact .bind (.lift fun _ _ => hbackend.undeploy nodeId ref) fun _ => hok _
  | status ref => exact .bind (.lift fun _ _ => hbackend.status nodeId ref) fun _ => hok _
  | setPolicy ref payload =>
      exact .lift fun _ _ => .lift fun _ _ => .lift fun _ _ =>
        hbackend.setPolicy nodeId ref payload
  | deletePolicy ref => exact .lift fun _ _ => hbackend.deletePolicy nodeId ref
  | setInterfacePolicy interface policy =>
      exact push_interface_policy_refuses_first hdirectory rfl nodeId interface (some policy)
  | deleteInterfacePolicy interface =>
      exact push_interface_policy_refuses_first hdirectory rfl nodeId interface none
  | changeDns change config aliases =>
      have hpush : (do
          let records ← (pushedRecords config aliases : Except Error _)
          broker.connect nodeId .ela
          change.sendRecords nodeId records
          change.sendForwarders nodeId config : Program Unit).RefusesFirst :=
        .lift fun records _ => Program.NeverRefuses.first <|
          .bind (Broker.connect_never_refuses hdirectory nodeId .ela) fun _ =>
            .bind (change.send_records_never_refuses nodeId records) fun _ =>
              change.send_forwarders_never_refuses nodeId config
      cases change with
      | apply => exact .lift fun _ _ => hpush
      | remove => exact hpush
  | interfaces => exact (Program.NeverRefuses.bind (hsend _ _) fun _ => hok _).first
  | interface id => exact (Program.NeverRefuses.bind (hsend _ _) fun _ => hok _).first
  | updateInterface interface => exact (hsend _ _).first
  | updateInterfaces interfaces => exact (hsend _ _).first
  | register => exact .lift fun _ _ => Program.NeverRefuses.first (.make _)

omit hdirectory in
/-- The calls of replacing a workload that is kept in the cluster and passes its check. -/
theorem perform_redeploy {placing : Cluster.Placing}
    (hbackend : controller.backend = placing.backend) {nodeId serial : String}
    (hserial : placing.serial nodeId = .ok serial) {workload : Workload}
    (hcheck : workload.check = .ok ()) :
    (controller.perform nodeId (.action (.redeploy workload))).program =
      .proceed (.cluster (.getDeployment (Cluster.deploymentName workload.id serial)))
        (Cluster.Placing.present (Cluster.deploymentName workload.id serial) workload.ref
          fun current => .done (placing.build nodeId serial workload current.replicas) >>=
            fun deployment => .proceed (.cluster (.applyDeployment deployment)) fun _ =>
              .done (.ok ())) := by
  simp only [perform, Operation.map, carry_out_redeploy hbackend hserial hcheck, Program.map_eq,
    Program.proceed_bind, Cluster.Placing.present_bind, Program.bind_assoc, Program.done_ok_bind]

/-- Replacing a workload that is kept in the cluster has fetched its deployment, and called nothing
else, by the time it is refused. -/
theorem redeploy_refused {σ : Type} {world : World σ} {state : σ} {operation : String}
    {placing : Cluster.Placing} (hbackend : controller.backend = placing.backend)
    (hplacing : placing.directory = broker.directory) {nodeId : String} {workload : Workload}
    (hcheck : workload.check = .ok ()) {program : Program Unit}
    (hprogram : (controller.perform nodeId (.action (.redeploy workload))).program = program)
    (hcalls : ∀ exchange ∈ program.exchanges world operation state, exchange.refused = false)
    {error : Error} (hresult : (program.run world operation state).1 = .error error)
    (herror : error.isValidation) :
    ∃ node current, broker.directory.node nodeId = .ok (some node) ∧
      program.exchanges world operation state =
        [⟨.cluster (.getDeployment (Cluster.deploymentName workload.id node.serial)),
          .answered (some current)⟩] := by
  rw [← hplacing] at hdirectory ⊢
  rcases placing.serial_cases nodeId with ⟨failure, hfailure⟩ | ⟨node, hnode, hserial⟩
  · -- Not to find the node is no refusal.
    have hdone : program = .done (.error failure) := by
      rw [← hprogram]
      simp only [perform, carryOut, Operation.map, redeploy, hcheck, hbackend,
        Cluster.Placing.backend, Cluster.Placing.redeploy, hfailure]
      rfl
    rw [hdone] at hresult
    obtain rfl := Except.error.inj hresult
    cases herror.symm.trans (Cluster.Placing.serial_never_refuses hdirectory nodeId _ hfailure)
  · obtain rfl := (perform_redeploy hbackend hserial hcheck).symm.trans hprogram
    rw [Program.exchanges_proceed] at hcalls ⊢
    simp only [Program.run_proceed] at hresult
    cases hanswer : world.answer state
        (.cluster (.getDeployment (Cluster.deploymentName workload.id node.serial))) with
    | mk outcome after =>
        rw [hanswer] at hcalls hresult
        obtain ⟨hmade, hrest⟩ := List.forall_mem_cons.1 hcalls
        cases outcome with
        | failed failure =>
            obtain rfl := Except.error.inj hresult
            cases herror.symm.trans ((Exchange.refused_of_failed failure).trans hmade)
        | hung =>
            obtain rfl := Except.error.inj hresult
            cases herror
        | answered answer =>
            cases (answer : Option Cluster.Deployment) with
            | none =>
                obtain rfl := Except.error.inj hresult
                cases herror
            | some current =>
                refine ⟨node, current, hnode, ?_⟩
                simp only [Cluster.Placing.present_some] at hrest hresult ⊢
                cases hbuild : placing.build nodeId node.serial workload current.replicas with
                | error failure => rfl
                | ok deployment =>
                    rw [hbuild] at hrest hresult
                    have happly : (Program.proceed (.cluster (.applyDeployment deployment))
                        fun _ => .done (.ok ())).NeverRefuses := .proceed fun _ => .ok ()
                    cases herror.symm.trans (happly.run hrest hresult)

end Controller

/-- An operation that refuses its input has called nothing, as long as neither the cluster nor the
directory refuses what it is given. The only exception is to replace a workload that passes its
check where workloads are kept in the cluster: then the present deployment has been fetched, and
nothing else was called. -/
theorem refusal_before_calls {σ : Type} {settings : Settings} {broker : Broker} {hasCluster : Bool}
    {controller : Controller}
    (hcontroller : Controller.ofSettings settings broker hasCluster = .ok controller)
    (hdirectory : broker.directory.Accepting) (world : World σ) (nodeId : String) (job : Job)
    (state : σ) (cause : Refusal) :
    let operation := controller.perform nodeId job
    let made := operation.program.exchanges world operation.name state
    (∀ exchange ∈ made, exchange.refused = false) →
      (operation.run world state).1 = .error (.validation cause) →
        (¬ (settings.mode.usesCluster ∧
            ∃ workload, job = .action (.redeploy workload) ∧ workload.check = .ok ()) → made = []) ∧
          ∀ workload, settings.mode.usesCluster → job = .action (.redeploy workload) →
            workload.check = .ok () →
              ∃ node current, broker.directory.node nodeId = .ok (some node) ∧
                made = [⟨.cluster (.getDeployment
                    (Cluster.deploymentName workload.id node.serial)),
                  .answered (some current)⟩] := by
  intro operation made hcalls hresult
  refine ⟨fun hother => ?_, ?_⟩
  · by_cases hjob : settings.mode.usesCluster ∧ ∃ workload, job = .action (.redeploy workload)
    · -- A workload that fails its check is refused at once.
      obtain ⟨hmode, workload, rfl⟩ := hjob
      cases hcheck : workload.check with
      | ok => exact absurd ⟨hmode, workload, rfl, hcheck⟩ hother
      | error violation =>
          simp only [made, operation, Controller.perform, Controller.carryOut, Operation.map,
            Controller.redeploy, hcheck]
          rfl
    · refine (Controller.perform_refuses_first hdirectory hcontroller nodeId ?_).run hcalls hresult
        rfl
      exact fun hmode workload hworkload => hjob ⟨hmode, workload, hworkload⟩
  · rintro workload hmode rfl hcheck
    obtain ⟨route, hbackend⟩ := Controller.backend_of_cluster_mode hmode hcontroller
    exact Controller.redeploy_refused hdirectory hbackend rfl hcheck rfl hcalls hresult rfl

namespace Sample

/-- The directory knows what it is asked for. -/
theorem directory_accepts : broker.directory.Accepting :=
  ⟨fun h => (nomatch h), fun h => (nomatch h)⟩

end Sample

open Sample in
/-- A virtual machine is refused unheard when it is deployed, and after a look at what is deployed
when it is to replace that. -/
theorem refusal_before_calls_machine :
    let made (action : Action) :=
      let operation := controller.perform node.id (.action action)
      operation.program.exchanges Script.world operation.name (Sample.script (store 1) [])
    made (.deploy machine) = [] ∧ (made (.redeploy machine)).map (·.call) =
      [.cluster (.getDeployment (Cluster.deploymentName ref.id node.serial))] := by
  intro made
  have hrefused := refusal_before_calls of_settings directory_accepts Script.world node.id
  obtain ⟨hdeploy, -⟩ := hrefused (.action (.deploy machine)) (Sample.script (store 1) [])
    (.virtualMachine ref) (by decide +kernel) (by decide +kernel)
  obtain ⟨-, hredeploy⟩ := hrefused (.action (.redeploy machine)) (Sample.script (store 1) [])
    (.virtualMachine ref) (by decide +kernel) (by decide +kernel)
  obtain ⟨known, current, hnode, hmade⟩ :=
    hredeploy machine rfl rfl (Check.eq_ok (by decide +kernel))
  obtain rfl := Option.some.inj (Except.ok.inj (hnode.symm.trans node_known))
  refine ⟨hdeploy ?_, congrArg (List.map (·.call)) hmade⟩
  rintro ⟨-, workload, hjob, -⟩
  cases hjob

open Sample in
/-- Nothing that is asked refuses anything, and yet an operation refuses its input after a call. -/
theorem refusal_after_call :
    let redeploy := controller.perform node.id (.action (.redeploy machine))
    let script := Sample.script (store 1) []
    let made := redeploy.program.exchanges Script.world redeploy.name script
    broker.directory.Accepting ∧ made.all (!·.refused) ∧
      (redeploy.run Script.world script).1 = .error (.validation (.virtualMachine ref)) ∧
        made ≠ [] := by
  intro redeploy script made
  exact ⟨directory_accepts, by decide +kernel, by decide +kernel, by decide +kernel⟩

end EdgeFleet
