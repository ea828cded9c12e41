import EdgeFleet.Proofs.Bytes
import EdgeFleet.Proofs.Cluster.Client
import EdgeFleet.Proofs.Orchestration.Action

/-!
# What is missing, over HTTP

`Client.world` carries operations out at a server that is reached over HTTP. A command fetches the
deployment before it scales it, and the two are requests of their own: the deployment may be gone in
between. `missing_told_iff` says of which requests one is told that something is missing, and that
a command tells this of the first request only.
-/

namespace EdgeFleet

open Cluster Placing

namespace Cluster

/-- What is reached over HTTP: a state and, for each request, the response, if there is one, and the
state after it. -/
structure Server (σ : Type) where
  respond : σ → Http.Request → Option Http.Response × σ

/-- The service of a server in a state. -/
def Server.serve {σ : Type} (server : Server σ) (state : σ) :
    Http.Request → Option Http.Response :=
  fun written => (server.respond state written).1

namespace Client

variable {σ α : Type} (client : Client) (server : Server σ) (others : World σ)

/-- The state after a request. One that cannot be written down is not sent. -/
def after (state : σ) (asked : Request) : σ :=
  match client.request asked with
  | .ok written => (server.respond state written).2
  | .error _ => state

/-- The world in which the cluster is a server; other calls are answered elsewhere. -/
def world : World σ where
  answer state call :=
    match call with
    | .cluster asked =>
      match client.perform (server.serve state) asked with
      | .ok answer => (.answered answer, client.after server state asked)
      | .error error => (.failed error, client.after server state asked)
    | .register host => others.answer state (.register host)
    | .dial nodeId route => others.answer state (.dial nodeId route)
    | .agent nodeId context request => others.answer state (.agent nodeId context request)

/-- A deployment is scaled through numbers of copies up to one at which a fault is met. -/
inductive Interrupted (name : String) : σ → List Int → Int → ClusterFault → Prop
  | here {state : σ} {count : Int} {rest : List Int} {fault : ClusterFault} :
      client.Meets (server.serve state) (.scaleDeployment name count) fault →
        Interrupted name state (count :: rest) count fault
  | later {state : σ} {count last : Int} {rest : List Int} {fault : ClusterFault} :
      client.Answered (server.serve state) (.scaleDeployment name count) () →
        Interrupted name (client.after server state (.scaleDeployment name count)) rest last fault →
          Interrupted name state (count :: rest) last fault

variable {client server others} {state : σ} {asked : Request} {operation : String}

/-- A run goes on with the answer to a request. -/
theorem run_performed {answer : asked.Answer} {next : asked.Answer → Program α}
    (h : client.perform (server.serve state) asked = .ok answer) :
    (Program.proceed (.cluster asked) next).run (client.world server others) operation state =
      (next answer).run (client.world server others) operation
        (client.after server state asked) := by
  simp only [Program.run_proceed, world, h]

/-- A run ends with a request that fails. -/
theorem run_failed {error : Error} {next : asked.Answer → Program α}
    (h : client.perform (server.serve state) asked = .error error) :
    (Program.proceed (.cluster asked) next).run (client.world server others) operation state =
      (.error error, client.after server state asked) := by
  simp only [Program.run_proceed, world, h]
  rfl

/-- Any fault of a scaling is kept. -/
theorem reported_scale (name : String) (count : Int) (fault : ClusterFault) :
    reported (.scaleDeployment name count) fault =
      .error (.cluster (context (.scaleDeployment name count)) fault) := by
  cases fault <;> rfl

section Scaling

variable {name : String} {result : Except Error α} {counts : List Int}

/-- Scalings that are interrupted end in the fault that they have met. -/
theorem Interrupted.run {last : Int} {fault : ClusterFault}
    (h : client.Interrupted server name state counts last fault) :
    ((scaleAll name result counts).run (client.world server others) operation state).1 =
      .error (.cluster (context (.scaleDeployment name last)) fault) := by
  induction h with
  | @here state count rest fault hmeets =>
      have hfails : client.perform (server.serve state) (.scaleDeployment name count) =
          .error (.cluster (context (.scaleDeployment name count)) fault) :=
        (hmeets.perform_eq rfl).trans (reported_scale name count fault)
      rw [scaleAll, run_failed hfails]
  | later hanswered _ ih =>
      rw [scaleAll, run_performed (hanswered.perform_eq rfl)]
      exact ih

/-- Scalings come to their end or are interrupted. -/
theorem run_scale_all (name : String) (result : Except Error α) (counts : List Int) (state : σ) :
    ((scaleAll name result counts).run (client.world server others) operation state).1 = result ∨
      ∃ last fault, client.Interrupted server name state counts last fault := by
  induction counts generalizing state with
  | nil => exact .inl rfl
  | cons count rest ih =>
      rcases client.meets_or_answered (server.serve state) (.scaleDeployment name count) with
        ⟨fault, hmeets⟩ | ⟨⟨⟩, hanswered⟩
      · exact .inr ⟨count, fault, .here hmeets⟩
      · rw [scaleAll, run_performed (hanswered.perform_eq rfl)]
        refine (ih (client.after server state (.scaleDeployment name count))).imp_right ?_
        rintro ⟨last, fault, hrest⟩
        exact ⟨last, fault, .later hanswered hrest⟩

end Scaling

section Search

variable {service : Http.Request → Option Http.Response} {name : String}

/-- What answers a search is a deployment. -/
theorem Answered.found {answer : Request.Answer (.getDeployment name)}
    (h : client.Answered service (.getDeployment name) answer) :
    ∃ deployment : Deployment, answer = some deployment := by
  cases h with
  | read _ _ _ _ hread =>
      obtain ⟨value, -, hvalue⟩ := Option.bind_eq_some_iff.1 hread
      obtain ⟨deployment, -, rfl⟩ := Option.map_eq_some_iff.1 hvalue
      exact ⟨deployment, rfl⟩

/-- A search finds a deployment, or fails for a fault that is kept, or finds nothing; this it does
exactly if it is refused for the reason that nothing is there. -/
theorem perform_get_cases (client : Client) (service : Http.Request → Option Http.Response)
    (name : String) :
    (∃ deployment : Deployment, client.Answered service (.getDeployment name) (some deployment)) ∨
      (∃ fault, client.perform service (.getDeployment name) =
        .error (.cluster (context (.getDeployment name)) fault)) ∨
      ∃ status, client.Meets service (.getDeployment name) (.refused status) ∧
        status.reason = "NotFound" := by
  rcases client.meets_or_answered service (.getDeployment name) with
    ⟨fault, hmeets⟩ | ⟨answer, hanswered⟩
  -- Of all faults only a refusal for this reason is no error of a search.
  · have hperform := hmeets.perform_eq rfl
    cases fault with
    | refused status =>
        by_cases hreason : status.reason = "NotFound"
        · exact .inr (.inr ⟨status, hmeets, hreason⟩)
        · exact .inr (.inl ⟨_, hperform.trans (if_neg hreason)⟩)
    | _ => exact .inr (.inl ⟨_, hperform⟩)
  · obtain ⟨deployment, rfl⟩ := hanswered.found
    exact .inl ⟨deployment, hanswered⟩

/-- A search that is refused for the reason that nothing is there finds nothing. -/
theorem Meets.perform_none {status : ClusterStatus}
    (h : client.Meets service (.getDeployment name) (.refused status))
    (hreason : status.reason = "NotFound") :
    client.perform service (.getDeployment name) = .ok none :=
  (h.perform_eq rfl).trans (if_pos hreason)

end Search

end Client

end Cluster

namespace Controller

variable {controller : Controller} {placing : Placing} {nodeId serial : String}
  {ref : WorkloadRef} {σ : Type} {client : Client} {server : Server σ} {others : World σ}
  {state : σ} {command : Command}
  (hbackend : controller.backend = placing.backend)
  (hserial : placing.serial nodeId = .ok serial)
  (hid : ref.id ≠ "")
include hbackend hserial hid

/-- A command whose scalings are interrupted ends in the fault that they have met. -/
theorem run_command_interrupted {deployment : Deployment}
    (hfound : client.Answered (server.serve state)
      (.getDeployment (deploymentName ref.id serial)) (some deployment))
    (hallowed : command.allowed deployment.runState) {last : Int} {fault : ClusterFault}
    (h : client.Interrupted server (deploymentName ref.id serial)
      (client.after server state (.getDeployment (deploymentName ref.id serial)))
      (counts command) last fault) :
    ((controller.carryOut nodeId (.command ref command)).run
        (client.world server others) state).1 =
      .error (.cluster
        (Client.context (.scaleDeployment (deploymentName ref.id serial) last)) fault) := by
  rw [Operation.run, carry_out_command hbackend hserial hid,
    Client.run_performed (hfound.perform_eq rfl)]
  simp only [present_some, Command.check_allowed hallowed, Program.done_ok_bind]
  exact h.run

/-- A command finds something missing exactly if its search is refused for this reason. -/
theorem run_command_missing_iff :
    (∃ cause, ((controller.carryOut nodeId (.command ref command)).run
        (client.world server others) state).1 = .error (.notFound cause)) ↔
      ∃ status, client.Meets (server.serve state)
          (.getDeployment (deploymentName ref.id serial)) (.refused status) ∧
        status.reason = "NotFound" := by
  rw [Operation.run, carry_out_command hbackend hserial hid]
  constructor
  · rintro ⟨cause, hcause⟩
    rcases client.perform_get_cases (server.serve state) (deploymentName ref.id serial) with
      ⟨deployment, hfound⟩ | ⟨fault, hfails⟩ | hmissing
    -- Behind a search that finds something, the state or a scaling ends the command otherwise.
    · rw [Client.run_performed (hfound.perform_eq rfl), present_some] at hcause
      cases hallowed : command.allowed deployment.runState with
      | false =>
          rw [Command.check_refused hallowed] at hcause
          cases hcause
      | true =>
          rw [Command.check_allowed hallowed, Program.done_ok_bind] at hcause
          rcases Client.run_scale_all (deploymentName ref.id serial)
            (.ok (some command.target)) (counts command)
            (client.after server state (.getDeployment (deploymentName ref.id serial))) with
            hdone | ⟨last, fault, hinterrupted⟩
          · cases hdone.symm.trans hcause
          · cases hinterrupted.run.symm.trans hcause
    · rw [Client.run_failed hfails] at hcause
      cases hcause
    · exact hmissing
  · rintro ⟨status, hmeets, hreason⟩
    rw [Client.run_performed (hmeets.perform_none hreason)]
    exact ⟨.deploymentOf (deploymentName ref.id serial) ref, rfl⟩

end Controller

open Client in
/-- A request comes to its answer or meets a fault, and the fault is told as it ought to be exactly
if the request heeds the refusal; a refusal for what is missing that it does not heed is kept like
any other. A command tells that something is missing exactly if its search says so: that the
deployment is gone when it is to be scaled is an error of the cluster. -/
theorem missing_told_iff {settings : Settings} {broker : Broker} {controller : Controller}
    {hasCluster : Bool} (hmode : settings.mode.usesCluster)
    (hcontroller : Controller.ofSettings settings broker hasCluster = .ok controller)
    {node : Node} (hnode : broker.directory.node node.id = .ok (some node))
    {ref : WorkloadRef} (hid : ref.id ≠ "") (command : Command) (client : Client) {σ : Type}
    (server : Server σ) (others : World σ) (state : σ) :
    let name := deploymentName ref.id node.serial
    let ended := ((controller.carryOut node.id (.command ref command)).run
      (client.world server others) state).1
    (∀ (service : Http.Request → Option Http.Response) (asked : Request),
      (checkName asked ≠ .ok () →
        client.perform service asked = .error (.internal "object has no name")) ∧
      (checkName asked = .ok () →
        ((∃ fault, client.Meets service asked fault) ∨
          ∃ answer, client.Answered service asked answer ∧
            client.perform service asked = .ok answer) ∧
        ∀ fault, client.Meets service asked fault →
          (Told asked (client.perform service asked) fault ↔
            ∀ status, fault = .refused status → Heeds asked status) ∧
          ∀ status, fault = .refused status → status.code = 404 → ¬ Heeds asked status →
            client.perform service asked = .error (.cluster (context asked) fault))) ∧
    ((∃ cause, ended = .error (.notFound cause)) ↔
      ∃ status, client.Meets (server.serve state) (.getDeployment name) (.refused status) ∧
        status.reason = "NotFound") ∧
    ∀ (deployment : Deployment) (last : Int) (fault : ClusterFault),
      client.Answered (server.serve state) (.getDeployment name) (some deployment) →
        command.allowed deployment.runState →
          client.Interrupted server name (client.after server state (.getDeployment name))
            (counts command) last fault →
            ended = .error (.cluster (context (.scaleDeployment name last)) fault) := by
  obtain ⟨route, hbackend⟩ := Controller.backend_of_cluster_mode hmode hcontroller
  have hserial : (Controller.placing settings broker route).serial node.id = .ok node.serial :=
    Placing.serial_eq hnode
  refine ⟨fun service asked => ⟨perform_nameless, fun hname => ⟨?_, fun fault hmeets => ?_⟩⟩,
    Controller.run_command_missing_iff hbackend hserial hid,
    fun deployment last fault hfound hallowed =>
      Controller.run_command_interrupted hbackend hserial hid hfound hallowed⟩
  · exact (client.meets_or_answered service asked).imp_right fun ⟨answer, hanswered⟩ =>
      ⟨answer, hanswered, hanswered.perform_eq hname⟩
  · rw [hmeets.perform_eq hname]
    refine ⟨told_reported_iff fault, ?_⟩
    rintro status rfl hmissing hheeds
    have hrefused := refused_of_not_heeds hheeds
    rwa [if_pos hmissing] at hrefused

namespace Sample

/-- A server that gives prepared responses, one after another. -/
def canned : Server (List Http.Response) where
  respond
    | [], _ => (none, [])
    | response :: rest, _ => (some response, rest)

/-- Everything but the cluster hangs. -/
def elsewhere : World (List Http.Response) where
  answer responses _ := (.hung, responses)

/-- A client of the objects of the controller. -/
def client : Client :=
  ⟨settings.namespaceName⟩

/-- A deployment with one copy, as text. -/
def runningText : String :=
  "\x7b\"kind\": \"Deployment\", \"spec\": \x7b\"replicas\": 1\x7d\x7d"

/-- A response that shows it. -/
def running : Http.Response :=
  ⟨200, .ofText runningText⟩

/-- That there is no such object, as text. -/
def goneText : String :=
  "\x7b\"kind\": \"Status\", \"status\": \"Failure\", \"code\": 404, " ++
    "\"reason\": \"NotFound\", \"message\": \"gone\"\x7d"

/-- A response that says so. -/
def gone : Http.Response :=
  ⟨404, .ofText goneText⟩

/-- What it says. -/
def absence : ClusterStatus :=
  ⟨404, "Failure", "NotFound", "gone"⟩

/-- The application, as the response shows it. -/
def shown : Deployment :=
  ⟨default, some ⟨some 1, default, none, default⟩, none⟩

variable {asked : Request}

/-- A request can be written down unless that is an error. -/
theorem exists_written (h : (client.encode asked).isOk) :
    ∃ written, client.encode asked = .ok written := by
  cases hencode : client.encode asked with
  | ok written => exact ⟨written, rfl⟩
  | error fault =>
      rw [hencode] at h
      cases h

/-- A request that can be written down is refused for what is gone. -/
theorem meets_gone (h : (client.encode asked).isOk)
    {service : Http.Request → Option Http.Response}
    (hservice : ∀ written, service written = some gone) :
    client.Meets service asked (.refused absence) := by
  obtain ⟨written, hwritten⟩ := exists_written h
  have hstatus : Client.refusal gone goneText = absence := by decide +kernel
  exact hstatus ▸ .refused hwritten (hservice written) (Bytes.text_of_text _) rfl

/-- Each request that is sent takes one of the prepared responses. -/
theorem after_canned (h : (client.encode asked).isOk) (hname : Client.checkName asked = .ok ())
    (response : Http.Response) (rest : List Http.Response) :
    client.after canned (response :: rest) asked = rest := by
  obtain ⟨written, hwritten⟩ := exists_written h
  simp [Client.after, Client.request_eq hname hwritten, canned]

end Sample

open Sample in
/-- A command finds that the deployment is gone when it scales it, and tells it as an error of the
cluster. When it deletes it, this is an answer. -/
theorem missing_told_between :
    let name := deploymentName ref.id node.serial
    ((controller.carryOut node.id (.command ref .stop)).run (client.world canned elsewhere)
        [running, gone]).1 =
      .error (.cluster (Client.context (.scaleDeployment name 0)) (.refused absence)) ∧
    Client.Told (.deleteDeployment name)
      (client.perform (fun _ => some gone) (.deleteDeployment name)) (.refused absence) := by
  intro name
  have hid : ref.id ≠ "" := by decide +kernel
  obtain ⟨htold, -, hinterrupted⟩ := missing_told_iff rfl of_settings node_known hid .stop client
    canned elsewhere [running, gone]
  have hsearch : (client.encode (.getDeployment name)).isOk := by decide +kernel
  have hscaling : (client.encode (.scaleDeployment name 0)).isOk := by decide +kernel
  have hdeletion : (client.encode (.deleteDeployment name)).isOk := by decide +kernel
  constructor
  · obtain ⟨written, hwritten⟩ := exists_written hsearch
    have hfound : client.Answered (canned.serve [running, gone]) (.getDeployment name)
        (some shown) :=
      .read hwritten rfl (Bytes.text_of_text runningText) rfl (by decide +kernel)
    refine hinterrupted shown 0 _ hfound rfl ?_
    rw [after_canned hsearch rfl]
    exact .here (meets_gone hscaling fun _ => rfl)
  · obtain ⟨-, hmeets⟩ := (htold (fun _ => some gone) (.deleteDeployment name)).2 rfl
    exact (hmeets _ (meets_gone hdeletion fun _ => rfl)).1.2 fun _ _ => trivial

open Sample in
/-- What is missing when it is to be scaled is not told as it ought to be. -/
theorem missing_untold :
    ¬ ∀ (client : Client) (service : Http.Request → Option Http.Response) (asked : Request)
      (fault : ClusterFault), Client.checkName asked = .ok () →
        client.Meets service asked fault →
          Client.Told asked (client.perform service asked) fault := by
  intro htold
  have hencode : (client.encode (.scaleDeployment "d1" 1)).isOk := by decide +kernel
  have hmeets : client.Meets (fun _ => some gone) (.scaleDeployment "d1" 1) (.refused absence) :=
    meets_gone hencode fun _ => rfl
  have hresult := htold client _ (.scaleDeployment "d1" 1) _ rfl hmeets
  rw [hmeets.perform_eq rfl] at hresult
  obtain ⟨cause, hcause⟩ := hresult
  cases hcause

end EdgeFleet
