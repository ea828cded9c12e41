import EdgeFleet.Proofs.Orchestration.Exchange

/-!
# The first failure ends an operation

`Call.Reports` says in which terms the failure of a call is reported, and a program that `Stops`
makes no call after one that failed, but ends in an error that reports the failure. That holds of
programs that go on with one another (`Program.Stops.bind`), and so of all operations of the
backends and of the controller, one lemma for each. `fail_stop` is the main result: a call that
fails or hangs is the last one that an operation makes, the operation ends in the error of this
call, and up to it the operation has made the calls that it makes where nothing fails.
-/

namespace EdgeFleet

/-! ### What is reported of a failure -/

/-- Whether an error keeps what a node says of a request: the category of three codes with the text
of the node, and the status itself for any other. -/
inductive Error.Keeps (context : String) : RpcStatus → Error → Prop
  | notFound (text : String) :
      Keeps context ⟨.notFound, text⟩ (.notFound (.byNode context text))
  | failedPrecondition (text : String) :
      Keeps context ⟨.failedPrecondition, text⟩ (.failedPrecondition (.byNode context text))
  | deadlineExceeded (text : String) :
      Keeps context ⟨.deadlineExceeded, text⟩ (.deadlineExceeded (.byNode context text))
  | other (status : RpcStatus)
      (h : status.code ∉ [RpcCode.notFound, .failedPrecondition, .deadlineExceeded]) :
      Keeps context status (.rpc context status)

/-- The error for a status keeps it. -/
theorem Error.of_status_keeps (context : String) (status : RpcStatus) :
    Keeps context status (ofStatus context status) := by
  obtain ⟨code, text⟩ := status
  cases code with
  | notFound => exact .notFound text
  | failedPrecondition => exact .failedPrecondition text
  | deadlineExceeded => exact .deadlineExceeded text
  | _ => exact .other _ (by simp)

/-- Whether an error reports that a call failed. A connection that is not made tells of the node and
the surface, and what a node says of a request is kept with what the request was for. The client of
the cluster puts its errors in these terms itself, so that they are passed on. -/
inductive Call.Reports : (call : Call) → call.Failure → Error → Prop
  | dial (nodeId : String) (route : Route) (failure : Call.Failure (.dial nodeId route)) :
      Reports (.dial nodeId route) failure
        (.connection s!"connect to node {nodeId} ({route.surface.name})" .transport)
  | agent (nodeId : String) {context : String} (request : Agent.Request) {status : RpcStatus}
      {error : Error} (h : error.Keeps context status) :
      Reports (.agent nodeId context request) status error
  | cluster (request : Cluster.Request) (error : Error) : Reports (.cluster request) error error

/-- The error of a failure reports it. -/
theorem Call.reports_error (made : Call) (failure : made.Failure) :
    made.Reports failure (made.error failure) := by
  cases made with
  | register host => exact nomatch (failure : Empty)
  | dial nodeId route => exact .dial nodeId route failure
  | agent nodeId context request => exact .agent nodeId request (Error.of_status_keeps context _)
  | cluster request => exact .cluster request failure

/-- Whether a call that was not answered ends an operation in an error: one that reports the
failure, or an overrun deadline that bears the operation's name if the call hangs. -/
inductive Exchange.EndsIn (operation : String) : Exchange → Error → Prop
  | failed {call : Call} {failure : call.Failure} {error : Error} (h : call.Reports failure error) :
      EndsIn operation ⟨call, .failed failure⟩ error
  | hung (call : Call) : EndsIn operation ⟨call, .hung⟩ (.deadlineExceeded (.operation operation))

/-! ### Programs that stop -/

namespace Program

variable {α β : Type}

/-- A program stops if it makes no call after one that failed, but ends in an error that reports
the failure. -/
def Stops : Program α → Prop
  | .done _ => True
  | .call made next =>
    (∀ failure, ∃ error, made.Reports failure error ∧
      next (.error failure) = .done (.error error)) ∧ ∀ answer, (next (.ok answer)).Stops

@[simp] theorem stops_done (result : Except Error α) : (Program.done result).Stops := trivial

/-- A program that goes on only with the answer to a call stops if it stops after that. -/
@[simp] theorem stops_proceed (made : Call) (next : made.Answer → Program α) :
    (proceed made next).Stops ↔ ∀ answer, (next answer).Stops := by
  refine ⟨fun h => h.2, fun h => ⟨fun failure => ?_, h⟩⟩
  exact ⟨made.error failure, made.reports_error failure, rfl⟩

/-- A single call. -/
theorem stops_make (made : Call) : (make made).Stops :=
  (stops_proceed made _).2 fun _ => trivial

/-- A program that goes on with another stops if both do. -/
theorem Stops.bind {program : Program α} {next : α → Program β} (h : program.Stops)
    (hnext : ∀ value, (next value).Stops) : (program >>= next).Stops := by
  induction program with
  | done result =>
      cases result with
      | ok value => exact hnext value
      | error error => trivial
  | call made rest ih =>
      refine ⟨fun failure => ?_, fun answer => ih (.ok answer) (h.2 answer)⟩
      obtain ⟨error, hreports, hends⟩ := h.1 failure
      refine ⟨error, hreports, ?_⟩
      show (rest (.error failure) >>= next) = .done (.error error)
      rw [hends, done_error_bind]

/-- Not every program stops: this one tries again after a connection has failed. -/
example (nodeId : String) (route : Route) :
    ¬ (Program.call (.dial nodeId route) fun _ => make (.dial nodeId route)).Stops := by
  rintro ⟨hfails, -⟩
  obtain ⟨error, -, hends⟩ := hfails ()
  cases hends

section Run

variable {σ : Type} {world : World σ} {operation : String} {program : Program α} {state : σ}
  {before after : List Exchange} {exchange : Exchange}

/-- A program that stops ends with its first call if this is not answered, in the error that the
call ends it in. -/
theorem Stops.ends_at_first {made : Call} {next : Except made.Failure made.Answer → Program α}
    (h : (Program.call made next).Stops)
    (hfault : ¬ Exchange.IsAnswered ⟨made, (world.answer state made).1⟩) :
    (Program.call made next).exchanges world operation state =
        [⟨made, (world.answer state made).1⟩] ∧
      ∃ error, ((Program.call made next).run world operation state).1 = .error error ∧
        Exchange.EndsIn operation ⟨made, (world.answer state made).1⟩ error := by
  simp only [exchanges_call, run]
  cases hanswer : world.answer state made with
  | mk outcome after =>
      rw [hanswer] at hfault
      cases outcome with
      | answered answer => exact absurd ⟨answer, rfl⟩ hfault
      | failed failure =>
          obtain ⟨error, hreports, hends⟩ := h.1 failure
          simp only [hends, exchanges_done, run_done]
          exact ⟨trivial, error, rfl, .failed hreports⟩
      | hung => exact ⟨rfl, _, rfl, .hung made⟩

/-- A call that is not answered is the last call of a program that stops, and the result is the
error that it ends in. -/
theorem Stops.ends_at_fault (h : program.Stops)
    (hmade : program.exchanges world operation state = before ++ exchange :: after)
    (hfault : ¬ exchange.IsAnswered) :
    after = [] ∧ ∃ error, (program.run world operation state).1 = .error error ∧
      exchange.EndsIn operation error := by
  induction program generalizing state before with
  | done result => simp at hmade
  | call made next ih =>
      by_cases hfirst : Exchange.IsAnswered ⟨made, (world.answer state made).1⟩
      · obtain ⟨answer, settled, hanswer⟩ := answer_of_answered hfirst
        rw [exchanges_answered hanswer] at hmade
        rw [run_answered hanswer]
        cases before with
        | nil =>
            -- The call in question would be this one, which is answered.
            obtain ⟨rfl, -⟩ := List.cons.inj hmade
            exact absurd ⟨answer, rfl⟩ hfault
        | cons first rest => exact ih _ (h.2 answer) (List.cons.inj hmade).2
      · obtain ⟨hlast, hends⟩ := h.ends_at_first hfirst
        obtain ⟨rfl, rfl, rfl⟩ := Exchange.eq_of_single (hlast.symm.trans hmade)
        exact ⟨rfl, hends⟩

/-- Where nothing fails, such a program says what it says elsewhere up to the call that is not
answered there, and makes this call too. -/
theorem Stops.exchanges_cured (h : program.Stops)
    (cure : σ → (call : Call) → call.Answer × σ)
    (hmade : program.exchanges world operation state = before ++ exchange :: after)
    (hfault : ¬ exchange.IsAnswered) :
    ∃ answer rest, program.exchanges (world.cured cure) operation state =
      before ++ ⟨exchange.call, .answered answer⟩ :: rest := by
  induction program generalizing state before with
  | done result => simp at hmade
  | call made next ih =>
      by_cases hfirst : Exchange.IsAnswered ⟨made, (world.answer state made).1⟩
      · obtain ⟨answer, settled, hanswer⟩ := answer_of_answered hfirst
        rw [exchanges_answered hanswer] at hmade
        rw [exchanges_answered (World.cured_answered cure hanswer)]
        cases before with
        | nil =>
            obtain ⟨rfl, -⟩ := List.cons.inj hmade
            exact absurd ⟨answer, rfl⟩ hfault
        | cons first others =>
            obtain ⟨rfl, hothers⟩ := List.cons.inj hmade
            obtain ⟨cured, rest, hrest⟩ := ih _ (h.2 answer) hothers
            exact ⟨cured, rest, congrArg (List.cons _) hrest⟩
      · obtain ⟨hlast, -⟩ := h.ends_at_first hfirst
        obtain ⟨rfl, rfl, rfl⟩ := Exchange.eq_of_single (hlast.symm.trans hmade)
        obtain ⟨answer, settled, hanswer⟩ := world.cured_answer state made cure
        exact ⟨answer, _, exchanges_answered hanswer⟩

end Run

end Program

/-! ### The operations stop -/

namespace Broker

variable (broker : Broker) (nodeId : String)

/-- Connecting stops. -/
theorem connect_stops (surface : Agent.Surface) : (broker.connect nodeId surface).Stops :=
  .bind trivial fun _ => Program.stops_make _

/-- Sending a request stops at the connection or at the request. -/
theorem send_stops (context : String) (request : Agent.Request) :
    (broker.send nodeId context request).Stops :=
  .bind (broker.connect_stops nodeId request.surface) fun _ => Program.stops_make _

end Broker

/-- A backend stops at the first failure, whatever it is asked for. -/
structure Backend.Stops (backend : Backend) : Prop where
  deploy : ∀ nodeId workload, (backend.deploy nodeId workload).Stops
  redeploy : ∀ nodeId workload, (backend.redeploy nodeId workload).Stops
  command : ∀ nodeId ref command, (backend.command nodeId ref command).Stops
  status : ∀ nodeId ref, (backend.status nodeId ref).Stops
  undeploy : ∀ nodeId ref, (backend.undeploy nodeId ref).Stops
  setPolicy : ∀ nodeId ref payload, (backend.setPolicy nodeId ref payload).Stops
  deletePolicy : ∀ nodeId ref, (backend.deletePolicy nodeId ref).Stops

namespace Native

variable (broker : Broker) (nodeId : String)

/-- Pushing a policy stops. -/
theorem push_policy_stops (ref : WorkloadRef) (policy : Option TrafficPolicy) :
    (pushPolicy broker nodeId ref policy).Stops :=
  .bind trivial fun _ => broker.send_stops nodeId _ _

/-- A policy that a node does not take is refused without a call. -/
theorem set_policy_stops (ref : WorkloadRef) (payload : PolicyPayload) :
    (setPolicy broker nodeId ref payload).Stops := by
  cases payload with
  | native policy => exact push_policy_stops broker nodeId ref (some policy)
  | cluster policy => trivial

/-- Handing everything to the node stops. -/
theorem backend_stops : (backend broker).Stops where
  deploy nodeId _ := broker.send_stops nodeId _ _
  redeploy nodeId _ := broker.send_stops nodeId _ _
  command nodeId _ _ := broker.send_stops nodeId _ _
  status nodeId _ := .bind (broker.send_stops nodeId _ _) fun _ => trivial
  undeploy nodeId _ := broker.send_stops nodeId _ _
  setPolicy := set_policy_stops broker
  deletePolicy nodeId ref := push_policy_stops broker nodeId ref none

end Native

namespace Cluster.Placing

variable (placing : Placing) (nodeId : String)

/-- Fetching a deployment that must exist stops. -/
theorem existing_stops (name : String) (ref : WorkloadRef) : (existing name ref).Stops := by
  refine .bind (Program.stops_make _) fun (found : Option Deployment) => ?_
  cases found <;> trivial

/-- Deploying stops at the count or at the creation. -/
theorem deploy_stops (workload : Workload) : (placing.deploy nodeId workload).Stops := by
  refine .bind trivial fun _ => .bind trivial fun _ => ?_
  refine .bind (Program.stops_make _) fun (count : Nat) => ?_
  match count with
  | 0 => trivial
  | 1 => exact Program.stops_make _
  | _ + 2 => trivial

/-- Redeploying stops at the search or at the replacement. -/
theorem redeploy_stops (workload : Workload) : (placing.redeploy nodeId workload).Stops :=
  .bind trivial fun _ => .bind (existing_stops _ _) fun _ => .bind trivial fun _ =>
    Program.stops_make _

/-- A restart whose first scaling fails does not make the second one. -/
theorem scale_stops (name : String) (command : Command) : (scale name command).Stops := by
  cases command with
  | start => exact Program.stops_make _
  | stop => exact Program.stops_make _
  | restart => exact .bind (Program.stops_make _) fun _ => Program.stops_make _

/-- A command stops at the search or at the first scaling that fails. -/
theorem command_stops (ref : WorkloadRef) (command : Command) :
    (placing.command nodeId ref command).Stops :=
  .bind trivial fun _ => .bind (existing_stops _ _) fun _ => .bind trivial fun _ =>
    scale_stops _ command

/-- Setting a policy stops, wherever policies go. -/
theorem set_policy_stops (ref : WorkloadRef) (payload : PolicyPayload) :
    (placing.setPolicy nodeId ref payload).Stops := by
  unfold setPolicy
  cases placing.policies with
  | node broker => exact Native.set_policy_stops broker nodeId ref payload
  | networkPolicy =>
      cases payload with
      | native policy => trivial
      | cluster policy =>
          exact .bind trivial fun _ => .bind trivial fun _ => Program.stops_make _

/-- So does deleting one. -/
theorem delete_policy_stops (ref : WorkloadRef) : (placing.deletePolicy nodeId ref).Stops := by
  unfold deletePolicy
  cases placing.policies with
  | node broker => exact Native.push_policy_stops broker nodeId ref none
  | networkPolicy => exact .bind trivial fun _ => .bind (Program.stops_make _) fun _ => trivial

/-- Undeploying does not get to the policy if the deletion of the deployment fails. -/
theorem undeploy_stops (ref : WorkloadRef) : (placing.undeploy nodeId ref).Stops := by
  refine .bind trivial fun _ => .bind (Program.stops_make _) fun (existed : Bool) => ?_
  cases existed with
  | true => exact placing.delete_policy_stops nodeId ref
  | false => trivial

/-- Keeping workloads in the cluster stops. -/
theorem backend_stops : placing.backend.Stops where
  deploy := placing.deploy_stops
  redeploy := placing.redeploy_stops
  command := placing.command_stops
  status _ _ := .bind trivial fun _ => .bind (existing_stops _ _) fun _ => trivial
  undeploy := placing.undeploy_stops
  setPolicy := placing.set_policy_stops
  deletePolicy := placing.delete_policy_stops

end Cluster.Placing

namespace DnsChange

variable (change : DnsChange) (nodeId : String)

/-- Records are sent until one fails. -/
theorem send_records_stops (records : List DnsRecord) :
    (change.sendRecords nodeId records).Stops := by
  induction records with
  | nil => trivial
  | cons record rest ih => exact .bind (Program.stops_make _) fun _ => ih

/-- Forwarders are sent in one request. -/
theorem send_forwarders_stops (config : DnsConfig) :
    (change.sendForwarders nodeId config).Stops := by
  unfold sendForwarders
  split
  · trivial
  · exact .bind (Program.stops_make _) fun _ => trivial

end DnsChange

namespace Controller

variable {settings : Settings} {broker : Broker} {hasCluster : Bool} {controller : Controller}

/-- The backend that settings ask for stops, in every mode. -/
theorem backend_stops (hcontroller : ofSettings settings broker hasCluster = .ok controller) :
    controller.backend.Stops := by
  obtain rfl := of_settings_ok hcontroller
  cases hmode : settings.mode with
  | native => exact Native.backend_stops broker
  | kubernetes => exact (placing settings broker (.node broker)).backend_stops
  | kubernetesOvn => exact (placing settings broker .networkPolicy).backend_stops

variable (controller)

/-- Pushing the policy of an interface stops. -/
theorem push_interface_policy_stops (nodeId interface : String) (policy : Option TrafficPolicy) :
    (controller.pushInterfacePolicy nodeId interface policy).Stops :=
  .bind trivial fun _ => .bind trivial fun _ => controller.broker.send_stops nodeId _ _

/-- Pushing a DNS configuration stops at the connection, at a record or at the forwarders. -/
theorem change_dns_stops (change : DnsChange) (nodeId : String) (config : DnsConfig)
    (aliases : List DnsAlias) :
    (controller.changeDns change nodeId config aliases).program.Stops := by
  have hpush : (do
      let records ← (pushedRecords config aliases : Except Error _)
      controller.broker.connect nodeId .ela
      change.sendRecords nodeId records
      change.sendForwarders nodeId config : Program Unit).Stops :=
    .bind trivial fun _ => .bind (controller.broker.connect_stops nodeId .ela) fun _ =>
      .bind (change.send_records_stops nodeId _) fun _ =>
        change.send_forwarders_stops nodeId config
  cases change with
  | apply => exact .bind trivial fun _ => hpush
  | remove => exact hpush

variable {controller}

/-- Whatever is asked of a controller stops if its backend does. -/
theorem perform_stops (hbackend : controller.backend.Stops) (nodeId : String) (job : Job) :
    (controller.perform nodeId job).program.Stops := by
  cases job with
  | action action =>
      refine .bind ?_ fun _ => trivial
      cases action with
      | deploy workload =>
          have hdeploy := hbackend.deploy nodeId workload
          exact .bind (.bind trivial fun _ => .bind hdeploy fun _ => trivial) fun _ => trivial
      | redeploy workload =>
          exact .bind (.bind trivial fun _ => hbackend.redeploy nodeId workload) fun _ => trivial
      | command ref command =>
          have hcommand := hbackend.command nodeId ref command
          exact .bind (.bind trivial fun _ => .bind hcommand fun _ => trivial) fun _ => trivial
      | undeploy ref =>
          exact .bind (.bind trivial fun _ => hbackend.undeploy nodeId ref) fun _ => trivial
  | status ref =>
      exact .bind (.bind trivial fun _ => hbackend.status nodeId ref) fun _ => trivial
  | setPolicy ref payload =>
      exact .bind trivial fun _ => .bind trivial fun _ => .bind trivial fun _ =>
        hbackend.setPolicy nodeId ref payload
  | deletePolicy ref => exact .bind trivial fun _ => hbackend.deletePolicy nodeId ref
  | setInterfacePolicy interface policy =>
      exact controller.push_interface_policy_stops nodeId interface (some policy)
  | deleteInterfacePolicy interface =>
      exact controller.push_interface_policy_stops nodeId interface none
  | changeDns change config aliases =>
      exact controller.change_dns_stops change nodeId config aliases
  | interfaces => exact .bind (controller.broker.send_stops nodeId _ _) fun _ => trivial
  | interface id => exact .bind (controller.broker.send_stops nodeId _ _) fun _ => trivial
  | updateInterface interface => exact controller.broker.send_stops nodeId _ _
  | updateInterfaces interfaces => exact controller.broker.send_stops nodeId _ _
  | register => exact .bind trivial fun _ => Program.stops_make _

end Controller

/-- Whatever is asked of a controller that settings ask for, in any mode and in any world, the first
call that fails or hangs is the last one. The operation ends in an error that reports the failure in
the terms that callers know, or in an overrun deadline that bears the operation's name if the call
hangs. Up to it the operation has said what it says where nothing fails, and there it makes this
call next. If no call fails or hangs, then the run is the one where nothing fails. -/
theorem fail_stop {σ : Type} (world : World σ) (state : σ)
    (cure : σ → (call : Call) → call.Answer × σ) {settings : Settings} {broker : Broker}
    {hasCluster : Bool} {controller : Controller}
    (hcontroller : Controller.ofSettings settings broker hasCluster = .ok controller)
    (nodeId : String) (job : Job) :
    let operation := controller.perform nodeId job
    let made := operation.program.exchanges world job.title state
    let intended := operation.program.exchanges (world.cured cure) job.title state
    (∀ exchange ∈ intended, exchange.IsAnswered) ∧
      (∀ before exchange after, made = before ++ exchange :: after → ¬ exchange.IsAnswered →
        after = [] ∧
          (∃ error, (operation.run world state).1 = .error error ∧
            exchange.EndsIn job.title error) ∧
          ∃ answer rest, intended = before ++ ⟨exchange.call, .answered answer⟩ :: rest) ∧
      ((∀ exchange ∈ made, exchange.IsAnswered) →
        operation.run (world.cured cure) state = operation.run world state ∧ intended = made) := by
  intro operation made intended
  have hname : operation.name = job.title := controller.perform_name nodeId job
  have hstops : operation.program.Stops :=
    Controller.perform_stops (Controller.backend_stops hcontroller) nodeId job
  simp only [Operation.run, hname]
  refine ⟨Program.answered_of_cured cure operation.program state, ?_, Program.run_cured cure⟩
  intro before exchange after hmade hfault
  obtain ⟨hlast, hresult⟩ := hstops.ends_at_fault hmade hfault
  exact ⟨hlast, hresult, hstops.exchanges_cured cure hmade hfault⟩

/-- An answer to every call that tells of nothing. -/
def Sample.nothing : (call : Call) → call.Answer
  | .register _ | .dial _ _ => ()
  | .agent _ _ request => NodeReply.empty.answer request
  | .cluster (.countNodes _) => (0 : Nat)
  | .cluster (.getDeployment _) => none
  | .cluster (.deleteDeployment _) | .cluster (.deleteNetworkPolicy _) => false
  | .cluster (.createDeployment _) | .cluster (.applyDeployment _)
  | .cluster (.scaleDeployment _ _) | .cluster (.applyNetworkPolicy _) => ()

open Cluster Sample in
/-- A restart whose first scaling hangs never gets to the second one. -/
theorem fail_stop_restart :
    let restart := Sample.controller.perform node.id (.action (.command ref .restart))
    let script := Sample.script (store 1) [.perform, .hang]
    let name := deploymentName ref.id node.serial
    (restart.program.exchanges Script.world "restart" script).map Exchange.call =
        [.cluster (.getDeployment name), .cluster (.scaleDeployment name 0)] ∧
      (restart.run Script.world script).1 = .error (.deadlineExceeded (.operation "restart")) := by
  intro restart script name
  have hmade : restart.program.exchanges Script.world "restart" script =
      [⟨.cluster (.getDeployment name), .answered (some (deployment 1))⟩] ++
        ⟨.cluster (.scaleDeployment name 0), .hung⟩ :: [] := by
    rfl
  have hstop := fail_stop Script.world script (fun state call => (nothing call, state))
    of_settings node.id (.action (.command ref .restart))
  obtain ⟨-, ⟨error, hresult, hends⟩, -⟩ :=
    hstop.2.1 _ _ _ hmade (Exchange.not_answered_hung _)
  cases hends with
  | hung => exact ⟨by rw [hmade]; rfl, hresult⟩

end EdgeFleet
