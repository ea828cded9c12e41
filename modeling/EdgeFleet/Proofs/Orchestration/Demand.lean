import EdgeFleet.Proofs.Agent.Definition
import EdgeFleet.Proofs.Broker.Route
import EdgeFleet.Proofs.Orchestration.Backends
import EdgeFleet.Proofs.Orchestration.FailStop

/-!
# One request for each demand

What is asked about a workload on a node, and what the node hears of it in the native mode. A
`Demand` is an action or a question for the status. `Demand.Sent` says by the names of the protocol
what request it takes, and `Demand.Replied` what the reply makes of the operation. Read
`Controller.meet_send` first: an operation sends one request and reports the answer. The main result
is `one_request`.
-/

namespace EdgeFleet

/-- What is asked about a workload on a node. -/
inductive Demand where
  | action (action : Action)
  | status (ref : WorkloadRef)
  deriving DecidableEq

/-- The operation for what is asked. -/
def Controller.meet (controller : Controller) (nodeId : String) :
    Demand → Operation (Option Status)
  | .action given => controller.carryOut nodeId given
  | .status ref => (controller.status nodeId ref).map some

namespace Demand

/-- The workload that something is asked about. -/
def ref : Demand → WorkloadRef
  | .action (.deploy workload) | .action (.redeploy workload) => workload.ref
  | .action (.command ref _) | .action (.undeploy ref) | .status ref => ref

/-- What is checked before anything is called: a workload passes its check, and a reference names
something. -/
def Passes : Demand → Prop
  | .action given => given.Passes
  | .status ref => ref.id ≠ ""

/-- The request for what is asked. -/
def request : Demand → Agent.Request
  | .action given => given.request
  | .status ref => .status ref.family ref.id

/-- What the request is called where the node refuses it. -/
def context (nodeId : String) : Demand → String
  | .action given => given.context nodeId
  | .status ref => s!"get status of {ref.name} on node {nodeId}"

/-- What is reported of an answer: an action leads to a status or to none, and the answer to a
question has the number of one. -/
def report : (demand : Demand) → demand.request.Answer → Option Status
  | .action given, _ => given.report
  | .status _, number => some (Status.ofNumber number)

/-! ### What is sent -/

/-- The service of a node that something is asked of. Each family has one for commands and one for
all else. -/
def service (demand : Demand) : String :=
  match demand.ref.family, demand with
  | .app, .action (.command _ _) => "eva.ApplicationLifecycleService"
  | .app, _ => "eva.ApplicationDeploymentService"
  | .vnf, .action (.command _ _) => "eva.VnfLifecycleService"
  | .vnf, _ => "eva.VnfDeploymentService"

/-- The name of the method for what is asked. Deploying has one for each way to pack a workload. -/
def verb : Demand → String
  | .action (.deploy workload) =>
    match workload.packaging with
    | .container => "DeployContainer"
    | .vm => "DeployVm"
  | .action (.redeploy _) => "Redeploy"
  | .action (.command _ .start) => "Start"
  | .action (.command _ .stop) => "Stop"
  | .action (.command _ .restart) => "Restart"
  | .action (.undeploy _) => "Undeploy"
  | .status _ => "GetStatus"

/-- What is written in the request: the definition of what is deployed, the ID and the number of a
command, and the ID alone for all else. -/
def message : Demand → Json
  | .action (.deploy workload) | .action (.redeploy workload) =>
    (Agent.Definition.ofWorkload workload).toJson
  | .action (.command ref command) =>
    .object [("id", .string ref.id), ("cmd", (command.number : Json))]
  | .action (.undeploy ref) | .status ref => .object [("id", .string ref.id)]

end Demand

namespace Agent

/-- The services that a node has for a family of workloads. -/
def services : WorkloadClass → List String
  | .app => ["eva.ApplicationDeploymentService", "eva.ApplicationLifecycleService"]
  | .vnf => ["eva.VnfDeploymentService", "eva.VnfLifecycleService"]

/-- Whether a method is one of the services for a family. -/
def Serves (family : WorkloadClass) (method : String) : Prop :=
  ∃ service ∈ services family, ∃ verb, method = service ++ "/" ++ verb

/-- What the names of the services for a family begin with. -/
def serviceStart : WorkloadClass → List Char
  | .app => ['e', 'v', 'a', '.', 'A']
  | .vnf => ['e', 'v', 'a', '.', 'V']

variable {family other : WorkloadClass} {method : String}

/-- So do the names of their methods. -/
theorem Serves.take_eq (h : Serves family method) :
    method.toList.take 5 = serviceStart family := by
  obtain ⟨service, hservice, verb, rfl⟩ := h
  have hname : 5 ≤ service.toList.length ∧ service.toList.take 5 = serviceStart family := by
    cases family <;> simp only [services, List.mem_cons, List.not_mem_nil, or_false] at hservice <;>
      rcases hservice with rfl | rfl <;> decide
  rw [String.toList_append, String.toList_append, List.append_assoc,
    List.take_append_of_le_length hname.1, hname.2]

/-- A method is one of the services for one family only. -/
theorem Serves.family_eq (h : Serves family method) (hother : Serves other method) :
    family = other := by
  have hstart := h.take_eq.symm.trans hother.take_eq
  cases family <;> cases other <;> first | rfl | exact absurd hstart (by decide)

end Agent

namespace Demand

/-- Whether a request asks a node for what is demanded. -/
structure Sent (demand : Demand) (request : Agent.Request) : Prop where
  surface : request.surface = .eva
  method : request.method = demand.service ++ "/" ++ demand.verb
  /-- The services are those for the family of the workload, and no others. -/
  serves_iff : ∀ family, Agent.Serves family request.method ↔ demand.ref.family = family
  message : request.message = demand.message
  id : request.message.get? "id" = some (.string demand.ref.id)

variable (demand : Demand)

/-- The service is one for the family of the workload. -/
theorem service_mem : demand.service ∈ Agent.services demand.ref.family := by
  unfold service
  split <;> simp_all [Agent.services]

/-- The request for a demand calls its method. -/
theorem request_method : demand.request.method = demand.service ++ "/" ++ demand.verb := by
  cases demand with
  | status ref =>
      obtain ⟨family, id⟩ := ref
      cases family <;> rfl
  | action given =>
      cases given with
      | deploy workload =>
          have hverb (packaging : Packaging) (definition : Agent.Definition) :
              (Agent.Request.deploy packaging definition).method =
                Agent.Request.deploymentService definition.family ++ "/" ++
                  match packaging with
                  | .container => "DeployContainer"
                  | .vm => "DeployVm" := by
            cases packaging <;> cases definition <;> rfl
          refine (hverb workload.packaging (.ofWorkload workload)).trans ?_
          cases workload <;> rfl
      | redeploy workload => cases workload <;> rfl
      | command ref command =>
          obtain ⟨family, id⟩ := ref
          cases family <;> cases command <;> rfl
      | undeploy ref =>
          obtain ⟨family, id⟩ := ref
          cases family <;> rfl

/-- It carries its message. -/
theorem request_message : demand.request.message = demand.message := by
  cases demand with
  | status ref => rfl
  | action given =>
      cases given with
      | deploy workload => cases workload <;> rfl
      | redeploy workload => cases workload <;> rfl
      | command ref command => rfl
      | undeploy ref => rfl

/-- Every message has the ID of the workload. -/
theorem message_id : demand.message.get? "id" = some (.string demand.ref.id) := by
  cases demand with
  | status ref => rfl
  | action given =>
      cases given with
      | deploy workload => cases workload <;> rfl
      | redeploy workload => cases workload <;> rfl
      | command ref command => rfl
      | undeploy ref => rfl

/-- The request for a demand asks the node for what is demanded. -/
theorem request_sent : demand.Sent demand.request where
  surface := by
    cases demand with
    | status ref => rfl
    | action given => cases given <;> rfl
  method := demand.request_method
  serves_iff family := by
    have hserves : Agent.Serves demand.ref.family demand.request.method :=
      ⟨demand.service, demand.service_mem, demand.verb, demand.request_method⟩
    exact ⟨fun h => hserves.family_eq h, fun h => h ▸ hserves⟩
  message := demand.request_message
  id := by rw [demand.request_message, demand.message_id]

end Demand

/-! ### What is replied -/

/-- What the number of a status is read as: the status of this number, and unknown where there is
none. -/
inductive Status.Reads : Int → Status → Prop
  | known (wire : WireStatus) : Reads wire.number (.ofWire wire)
  | outside {number : Int} (h : ∀ wire : WireStatus, number ≠ wire.number) : Reads number .unknown

/-- A number has a status only if it is the number of this status. -/
theorem WireStatus.of_number_some {number : Int} {wire : WireStatus} :
    ofNumber? number = some wire ↔ number = wire.number := by
  constructor
  · intro h
    unfold ofNumber? at h
    split at h <;> cases h <;> rfl
  · rintro rfl
    cases wire <;> rfl

/-- Every number is read like this. -/
theorem Status.of_number_reads (number : Int) : Reads number (ofNumber number) := by
  rw [ofNumber]
  cases hwire : WireStatus.ofNumber? number with
  | none =>
      refine .outside fun wire hnumber => ?_
      cases hwire.symm.trans (WireStatus.of_number_some.2 hnumber)
  | some wire =>
      obtain rfl := WireStatus.of_number_some.1 hwire
      exact .known wire

namespace Demand

/-- What the reply to the request for a demand makes of the operation. -/
structure Replied (demand : Demand) (nodeId operation : String)
    (reply : Outcome (.agent nodeId (demand.context nodeId) demand.request))
    (result : Except Error (Option Status)) : Prop where
  ok_iff : result.isOk ↔ ∃ answer, reply = .answered answer
  answered : ∀ answer, reply = .answered answer → result = .ok (demand.report answer)
  refused : ∀ status : RpcStatus, reply = .failed status →
    ∃ error, result = .error error ∧ error.Keeps (demand.context nodeId) status
  hung : reply = .hung → result = .error (.deadlineExceeded (.operation operation))

/-- The last call for a demand is its request, and the reply to it makes the result. -/
theorem request_replied {σ : Type} (world : World σ) (demand : Demand) (nodeId operation : String)
    (state : σ) :
    let call := Call.agent nodeId (demand.context nodeId) demand.request
    let program : Program (Option Status) :=
      .proceed call fun answer => .done (.ok (demand.report answer))
    let reply := (world.answer state call).1
    program.exchanges world operation state = [⟨call, reply⟩] ∧
      demand.Replied nodeId operation reply (program.run world operation state).1 := by
  intro call program reply
  simp only [program, reply, Program.exchanges_proceed, Program.run_proceed]
  cases world.answer state call with
  | mk reply after =>
      cases reply with
      | answered answer =>
          refine ⟨rfl, by simp [Except.isOk, Except.toBool], ?_, by simp, by simp⟩
          intro other hother
          obtain rfl := Outcome.answered.inj hother
          rfl
      | failed status =>
          refine ⟨rfl, by simp [Except.isOk, Except.toBool], by simp, ?_, by simp⟩
          intro other hother
          obtain rfl := Outcome.failed.inj hother
          exact ⟨_, rfl, Error.of_status_keeps (demand.context nodeId) status⟩
      | hung => exact ⟨rfl, by simp [Except.isOk, Except.toBool], by simp, by simp, fun _ => rfl⟩

end Demand

namespace Controller

variable {broker : Broker} {controller : Controller} {nodeId : String} {demand : Demand}
  (hbackend : controller.backend = Native.backend broker) (hpasses : demand.Passes)
include hbackend hpasses

/-- A demand that passes sends its request to the node and reports the answer. -/
theorem meet_send :
    (controller.meet nodeId demand).program =
      broker.send nodeId (demand.context nodeId) demand.request >>= fun answer =>
        .done (.ok (demand.report answer)) := by
  cases demand with
  | action given => exact carry_out_send hbackend hpasses
  | status ref =>
      simp only [meet, Operation.map, status, check_ref_ok hpasses, hbackend, Native.backend,
        Native.status, Program.monad_lift_eq, Program.done_ok_bind, Program.map_eq]
      exact Program.bind_assoc (broker.send nodeId _ _) _ _

/-- If the node can be reached, that is one connection and one request. -/
theorem meet_native {route : Route} (hroute : broker.route nodeId .eva = .ok route) :
    (controller.meet nodeId demand).program =
      .proceed (.dial nodeId route) fun _ =>
        .proceed (.agent nodeId (demand.context nodeId) demand.request) fun answer =>
          .done (.ok (demand.report answer)) := by
  have hsurface := demand.request_sent.surface
  rw [meet_send hbackend hpasses,
    broker.send_calls nodeId (demand.context nodeId) demand.request (hsurface ▸ hroute),
    Program.proceed_bind]
  exact congrArg (Program.proceed _) (funext fun _ => Program.proceed_bind _ _ _)

/-- If it cannot be reached, that is no call at all. -/
theorem meet_unrouted {error : Error} (hroute : broker.route nodeId .eva = .error error) :
    (controller.meet nodeId demand).program = .done (.error error) := by
  have hconnect : broker.connect nodeId demand.request.surface = .done (.error error) := by
    rw [demand.request_sent.surface]
    exact Broker.connect_unrouted hroute
  rw [meet_send hbackend hpasses, Broker.send, hconnect]
  rfl

end Controller

/-- In the native mode, whatever is asked about a workload on a node with one address takes at most
one connection and one request. The connection goes to the surface for workloads. Once it stands,
the request is sent, and no other: it asks the node for what is demanded of this workload, on the
services for its family. The operation then succeeds if and only if the node answers, and a refusal
is kept as the node puts it. Without a connection nothing is sent. -/
theorem one_request {σ : Type} (world : World σ) (state : σ) {settings : Settings} {broker : Broker}
    {hasCluster : Bool} {controller : Controller} {nodeId target : String} {demand : Demand}
    (hmode : settings.mode = .native)
    (hcontroller : Controller.ofSettings settings broker hasCluster = .ok controller)
    (htarget : broker.directory.targets nodeId = .ok [target]) (hpasses : demand.Passes) :
    let operation := controller.meet nodeId demand
    let made := operation.program.exchanges world operation.name state
    let result := (operation.run world state).1
    demand.Sent demand.request ∧
      (∀ number, Status.Reads number (Status.ofNumber number)) ∧
      (∀ error, broker.route nodeId .eva = .error error →
        made = [] ∧ result = .error error ∧
          ∃ cause, error = .connection (Broker.connecting nodeId .eva) cause) ∧
      ∀ route, broker.route nodeId .eva = .ok route →
        let dial := Call.dial nodeId route
        let send := Call.agent nodeId (demand.context nodeId) demand.request
        route.surface = .eva ∧
          (∀ after, world.answer state dial = (.failed (), after) →
            made = [⟨dial, .failed ()⟩] ∧
              result = .error (.connection (Broker.connecting nodeId .eva) .transport)) ∧
          (∀ after, world.answer state dial = (.hung, after) →
            made = [⟨dial, .hung⟩] ∧
              result = .error (.deadlineExceeded (.operation operation.name))) ∧
          ∀ connected, world.answer state dial = (.answered (), connected) →
            let reply := (world.answer connected send).1
            made = [⟨dial, .answered ()⟩, ⟨send, reply⟩] ∧
              demand.Replied nodeId operation.name reply result := by
  intro operation made result
  have hbackend : controller.backend = Native.backend broker :=
    Controller.backend_of_native_mode hmode hcontroller
  refine ⟨demand.request_sent, Status.of_number_reads, ?_, ?_⟩
  · intro error hroute
    have hprogram := Controller.meet_unrouted hbackend hpasses hroute
    refine ⟨?_, ?_, ?_⟩
    · simp only [made, operation, hprogram, Program.exchanges_done]
    · simp only [result, operation, Operation.run, hprogram, Program.run_done]
    · obtain hunresolved | hcause := Broker.route_error hroute
      · rw [Broker.resolve, htarget] at hunresolved
        cases hunresolved
      · exact hcause
  · intro route hroute
    have hsurface : route.surface = .eva := Broker.surface_of_route hroute
    have hprogram := Controller.meet_native hbackend hpasses hroute
    -- The run is the connection, and then the request if the connection stands.
    simp only [made, result, operation, Operation.run, hprogram]
    rw [Program.exchanges_proceed, Program.run_proceed]
    refine ⟨hsurface, fun after hdial => ?_, fun after hdial => ?_, fun connected hdial => ?_⟩
    · rw [hdial]
      refine ⟨rfl, ?_⟩
      rw [← hsurface]
      rfl
    · rw [hdial]
      exact ⟨rfl, rfl⟩
    · obtain ⟨hsent, hreplied⟩ := demand.request_replied world nodeId operation.name connected
      rw [hdial]
      exact ⟨congrArg (List.cons _) hsent, hreplied⟩

namespace Sample

/-- The deployment of an application that is packed as a machine. -/
def bringUp : Demand :=
  .action (.deploy machine)

/-- A world in which the node does not allow the first request. -/
def forbidding : Script :=
  { script bare [] with nodeReplies := [.refuse ⟨.permissionDenied, "not allowed"⟩] }

end Sample

open Sample in
/-- A node that does not allow an application to be deployed as a machine hears of it once, and its
refusal is kept. -/
theorem one_request_refused :
    let operation := nodeController.meet node.id bringUp
    let made := operation.program.exchanges Script.world operation.name forbidding
    ∃ route, made.map Exchange.call =
        [.dial node.id route, .agent node.id (bringUp.context node.id) bringUp.request] ∧
      bringUp.request.method = "eva.ApplicationDeploymentService/DeployVm" ∧
      (operation.run Script.world forbidding).1 =
        .error (.rpc (bringUp.context node.id) ⟨.permissionDenied, "not allowed"⟩) := by
  intro operation made
  have hcontroller : Controller.ofSettings .standard nodeBroker false = .ok nodeController := rfl
  have hpasses : bringUp.Passes := Check.eq_ok (by decide +kernel)
  have hreached : (nodeBroker.route node.id .eva).isOk := by decide +kernel
  obtain ⟨hsent, -, -, hmet⟩ := one_request Script.world forbidding rfl hcontroller rfl hpasses
  cases hroute : nodeBroker.route node.id .eva with
  | error error =>
      rw [hroute] at hreached
      cases hreached
  | ok route =>
      obtain ⟨-, -, -, hconnected⟩ := hmet route hroute
      obtain ⟨hmade, hreplied⟩ := hconnected _ rfl
      obtain ⟨error, hresult, hkeeps⟩ := hreplied.refused ⟨.permissionDenied, "not allowed"⟩ rfl
      refine ⟨route, congrArg (List.map Exchange.call) hmade, hsent.method, ?_⟩
      cases hkeeps with
      | other _ _ => exact hresult

end EdgeFleet
