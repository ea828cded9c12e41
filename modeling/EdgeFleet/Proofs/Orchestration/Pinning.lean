import EdgeFleet.Proofs.Broker.Route
import EdgeFleet.Proofs.Orchestration.Routing
import EdgeFleet.Proofs.Pki.Opening

/-!
# Connections under the name of the node

Where connections are encrypted, a broker dials a node with its own credentials and under the name
of this node and no other, or it dials nothing (`Broker.connect_pinned`). `Program.Pins` carries
this over to programs: no request is sent to a node before the node was dialled under its name, and
`Controller.perform_pins` says so of every job. If the transport only connects to servers that prove
the name they are dialled under, by a certificate of an authority that is trusted, then requests are
received by those servers alone, which is the second half of the main result, `connections_pinned`.
-/

namespace EdgeFleet

/-! ### What is dialled -/

/-- A connection that was asked for, how that ended, and what was called. -/
structure Attempt where
  nodeId : String
  surface : Agent.Surface
  result : Except Error Unit
  calls : List Call

/-- Connects to surfaces of nodes one after another, and records every attempt. -/
def Broker.attempts {σ : Type} (broker : Broker) (world : World σ) (operation : String) :
    List (String × Agent.Surface) → σ → List Attempt
  | [], _ => []
  | (nodeId, surface) :: rest, state =>
    let program := broker.connect nodeId surface
    let (result, next) := program.run world operation state
    ⟨nodeId, surface, result, (program.exchanges world operation state).map Exchange.call⟩ ::
      broker.attempts world operation rest next

/-- What an attempt to connect to a node comes to where connections are encrypted. -/
structure Attempt.Pinned (broker : Broker) (config : Tls.Config) (attempt : Attempt) : Prop where
  /-- What is dialled is the surface that was asked for, encrypted with the credentials of the
  broker, and the server must prove the name of the node. -/
  dialled : ∀ call ∈ attempt.calls, ∃ route name, call = .dial attempt.nodeId route ∧
    route.surface = attempt.surface ∧ Net.ServerName.parse? attempt.nodeId = some name ∧
      route.tls = some ⟨config.credentials, name⟩ ∧
        route.endpoint.render.startsWith "https://" = true
  /-- An address that can be read is dialled, once, if the library can make use of the
  credentials. -/
  built : ∀ host endpoint name, broker.resolve attempt.nodeId = .ok host →
    broker.endpoint? host attempt.surface = some endpoint →
      broker.library.accepts config.credentials = true →
        Net.ServerName.parse? attempt.nodeId = some name →
          attempt.calls =
            [.dial attempt.nodeId ⟨attempt.surface, endpoint, some ⟨config.credentials, name⟩⟩]
  /-- Where the connection cannot be built, nothing is dialled. -/
  unbuilt : ∀ host, broker.resolve attempt.nodeId = .ok host →
    broker.Unbuilt config attempt.nodeId host attempt.surface →
      attempt.calls = [] ∧ ∃ cause, attempt.result =
        .error (.connection (Broker.connecting attempt.nodeId attempt.surface) cause)
  /-- Nor is anything dialled if the node is not found. -/
  unresolved : ∀ error, broker.resolve attempt.nodeId = .error error →
    attempt.calls = [] ∧ attempt.result = .error error

namespace Broker

variable {σ : Type} {broker : Broker} {config : Tls.Config} {nodeId : String}
  {surface : Agent.Surface} {route : Route} (htls : broker.tls = some config)
include htls

/-- Where connections are encrypted, a route bears the name of the node and an address to match. -/
theorem route_pinned (h : broker.route nodeId surface = .ok route) :
    ∃ name, route.surface = surface ∧ Net.ServerName.parse? nodeId = some name ∧
      route.tls = some ⟨config.credentials, name⟩ ∧
        route.endpoint.render.startsWith "https://" = true := by
  obtain ⟨host, endpoint, tls, -, hendpoint, hencrypts, rfl⟩ := route_iff.1 h
  have hscheme : endpoint.scheme = .https := by
    rw [(Uri.Endpoint.parse_parts hendpoint).1, scheme, htls]
    rfl
  have hstarts := endpoint.render_starts
  rw [hscheme] at hstarts
  cases hencrypts with
  | plain hplain => cases htls.symm.trans hplain
  | pinned hused _ hname =>
      obtain rfl := Option.some.inj (htls.symm.trans hused)
      exact ⟨_, rfl, hname, rfl, String.startsWith_string_iff.2 hstarts⟩

/-- A single attempt to connect is pinned to the node. -/
theorem connect_pinned (world : World σ) (operation nodeId : String) (surface : Agent.Surface)
    (state : σ) :
    let program := broker.connect nodeId surface
    Attempt.Pinned broker config ⟨nodeId, surface, (program.run world operation state).1,
      (program.exchanges world operation state).map Exchange.call⟩ := by
  intro program
  have hunrouted : ∀ error, broker.route nodeId surface = .error error →
      (program.exchanges world operation state).map Exchange.call = [] ∧
        (program.run world operation state).1 = .error error := by
    intro error herror
    have hprogram : program = .done (.error error) := connect_unrouted herror
    rw [hprogram]
    exact ⟨rfl, rfl⟩
  refine ⟨?_, ?_, ?_, ?_⟩
  · intro call hcall
    obtain ⟨route, hroute, hdial⟩ := dials_route hcall
    obtain ⟨name, hpinned⟩ := route_pinned htls hroute
    exact ⟨route, name, hdial, hpinned⟩
  · intro host endpoint name hhost hendpoint haccepts hname
    have hroute : broker.route nodeId surface =
        .ok ⟨surface, endpoint, some ⟨config.credentials, name⟩⟩ :=
      route_iff.2 ⟨host, endpoint, _, hhost, hendpoint, .pinned htls haccepts hname, rfl⟩
    exact connect_calls world operation state hroute
  · intro host hhost hunbuilt
    obtain ⟨cause, hcause⟩ := route_unbuilt htls hhost hunbuilt
    obtain ⟨hcalls, hresult⟩ := hunrouted _ hcause
    exact ⟨hcalls, cause, hresult⟩
  · intro error herror
    exact hunrouted error (route_unresolved herror surface)

/-- All attempts of a run are. -/
theorem attempts_pinned (world : World σ) (operation : String)
    (requests : List (String × Agent.Surface)) (state : σ) :
    ∀ attempt ∈ broker.attempts world operation requests state,
      attempt.Pinned broker config := by
  induction requests generalizing state with
  | nil =>
      intro attempt hattempt
      cases hattempt
  | cons request rest ih =>
      obtain ⟨nodeId, surface⟩ := request
      have hfirst := connect_pinned htls world operation nodeId surface state
      exact List.forall_mem_cons.2 ⟨hfirst, ih _⟩

end Broker

/-! ### Who receives what is sent -/

/-- Whether a call dials a node. -/
def Call.isDial : Call → Bool
  | .dial _ _ => true
  | _ => false

/-- A transport enforces what is dialled: it connects only to a server with a certificate of one of
the authorities that the client trusts, which bears the name, and the connection leads to this
server until another one is made. `peer` is the server at the other end of the connection that was
made last, and `certified` tells whether one of several authorities issued the certificate of a
server. -/
structure World.Enforces {σ Server : Type} (world : World σ) (peer : σ → Option Server)
    (certified : List String → Server → Prop) (bears : Server → Net.ServerName → Prop) :
    Prop where
  dialled : ∀ state nodeId route connector answer after,
    world.answer state (.dial nodeId route) = (.answered answer, after) →
      route.tls = some connector →
        ∃ server, peer after = some server ∧ certified connector.credentials.authorities server ∧
          bears server connector.server
  kept : ∀ state call, call.isDial = false → peer (world.answer state call).2 = peer state

/-- A request that was sent to a node, and the server at the other end. -/
structure Delivery (Server : Type) where
  nodeId : String
  request : Agent.Request
  receiver : Option Server

/-- What a call sends to the server at the other end. -/
def Call.deliveries {Server : Type} (receiver : Option Server) : Call → List (Delivery Server)
  | .agent nodeId _ request => [⟨nodeId, request, receiver⟩]
  | _ => []

/-- The requests that a run sends to nodes, in order. -/
def Program.deliveries {σ Server α : Type} (world : World σ) (peer : σ → Option Server) :
    Program α → σ → List (Delivery Server)
  | .done _, _ => []
  | .call made next, state =>
    made.deliveries (peer state) ++
      match world.answer state made with
      | (.answered answer, after) => (next (.ok answer)).deliveries world peer after
      | (.failed failure, after) => (next (.error failure)).deliveries world peer after
      | (.hung, _) => []

namespace Program

variable {σ Server α : Type} (world : World σ) (peer : σ → Option Server)

/-- Where a program goes on only with the answer to a call, a run sends more if the call is
answered. -/
theorem deliveries_proceed (made : Call) (next : made.Answer → Program α) (state : σ) :
    (proceed made next).deliveries world peer state = made.deliveries (peer state) ++
      match world.answer state made with
      | (.answered answer, after) => (next answer).deliveries world peer after
      | _ => [] := by
  rw [proceed, Program.deliveries]
  cases world.answer state made with
  | mk outcome after => cases outcome <;> rfl

/-- A program that ends with its first call sends nothing after it. -/
theorem deliveries_last (made : Call) (result : made.Answer → Except Error α) (state : σ) :
    (proceed made fun answer => .done (result answer)).deliveries world peer state =
      made.deliveries (peer state) := by
  rw [deliveries_proceed]
  cases world.answer state made with
  | mk outcome after => cases outcome <;> simp [Program.deliveries]

end Program

/-- Whether a server has proved, by a trusted certificate, to bear the name of a node. -/
def Proven {Server : Type} (trusted : Server → Prop) (bears : Server → Net.ServerName → Prop)
    (nodeId : String) (receiver : Option Server) : Prop :=
  ∃ name server, Net.ServerName.parse? nodeId = some name ∧ receiver = some server ∧
    trusted server ∧ bears server name

/-- Whether a call to a node goes to this node: it is dialled under its own name, and requests are
sent to it once it is connected. -/
def Call.Pinned (config : Tls.Config) (nodeId : String) (connected : Bool) : Call → Prop
  | .dial id route => id = nodeId ∧ ∃ name, Net.ServerName.parse? nodeId = some name ∧
      route.tls = some ⟨config.credentials, name⟩
  | .agent id _ _ => id = nodeId ∧ connected = true
  | .register _ | .cluster _ => True

namespace Program

variable {α β : Type} {config : Tls.Config} {nodeId : String} {connected : Bool}

/-- Whether all calls of a program that go to a node go to this node. Dialling connects if it is
answered, and a connection that was there before is lost if it fails. -/
def Pins (config : Tls.Config) (nodeId : String) : Bool → Program α → Prop
  | _, .done _ => True
  | connected, .call made next =>
    made.Pinned config nodeId connected ∧
      (∀ answer, (next (.ok answer)).Pins config nodeId (connected || made.isDial)) ∧
        ∀ failure, (next (.error failure)).Pins config nodeId (connected && !made.isDial)

@[simp] theorem pins_done (result : Except Error α) :
    (Program.done result).Pins config nodeId connected := trivial

/-- Where a program goes on only with the answer to a call, so do its calls. -/
@[simp] theorem pins_proceed (made : Call) (next : made.Answer → Program α) :
    (proceed made next).Pins config nodeId connected ↔ made.Pinned config nodeId connected ∧
      ∀ answer, (next answer).Pins config nodeId (connected || made.isDial) :=
  and_congr_right fun _ => and_iff_left fun _ => trivial

/-- A connection that is there already does no harm. -/
theorem Pins.mono {program : Program α} {wider : Bool} (h : program.Pins config nodeId connected)
    (hwider : connected = true → wider = true) : program.Pins config nodeId wider := by
  induction program generalizing connected wider with
  | done result => trivial
  | call made next ih =>
      obtain ⟨hmade, hanswered, hfailed⟩ := h
      refine ⟨?_, fun answer => ?_, fun failure => ?_⟩
      · cases made with
        | agent id context request => exact ⟨hmade.1, hwider hmade.2⟩
        | _ => exact hmade
      · refine ih _ (hanswered answer) fun hconnected => ?_
        simp only [Bool.or_eq_true] at hconnected ⊢
        exact hconnected.imp_left hwider
      · refine ih _ (hfailed failure) fun hconnected => ?_
        simp only [Bool.and_eq_true] at hconnected ⊢
        exact hconnected.imp_left hwider

/-- A program that goes on with another pins its calls if both do, whatever the first one leaves of
a connection. -/
theorem Pins.bind {program : Program α} {next : α → Program β}
    (h : program.Pins config nodeId connected)
    (hnext : ∀ value, (next value).Pins config nodeId false) :
    (program >>= next).Pins config nodeId connected := by
  induction program generalizing connected with
  | done result =>
      cases result with
      | ok value => exact (hnext value).mono nofun
      | error error => trivial
  | call made rest ih =>
      exact ⟨h.1, fun answer => ih _ (h.2.1 answer), fun failure => ih _ (h.2.2 failure)⟩

/-- A calculation makes no call. -/
theorem Pins.lift {result : Except Error α} {next : α → Program β}
    (h : ∀ value, result = .ok value → (next value).Pins config nodeId connected) :
    ((liftM result : Program α) >>= next).Pins config nodeId connected := by
  cases result with
  | ok value => exact h value rfl
  | error error => trivial

/-- Calls that go to no node are pinned to any. -/
theorem pins_of_only {program : Program α}
    (h : program.Only fun call => ∀ surface, call.destination ≠ .node surface) :
    program.Pins config nodeId connected := by
  induction program generalizing connected with
  | done result => trivial
  | call made next ih =>
      refine ⟨?_, fun answer => ih _ (h.2 (.ok answer)), fun failure => ih _ (h.2 (.error failure))⟩
      cases made with
      | register host => trivial
      | cluster request => trivial
      | dial id route => exact absurd rfl (h.1 route.surface)
      | agent id context request => exact absurd rfl (h.1 request.surface)

variable {σ Server : Type} {world : World σ} {peer : σ → Option Server}
  {certified : List String → Server → Prop} {bears : Server → Net.ServerName → Prop}

section Deliveries

variable (henforces : world.Enforces peer certified bears)
include henforces

/-- A node that was dialled under its name has proved to bear it once the dial is answered. -/
theorem proven_of_dial {made : Call} (hmade : made.Pinned config nodeId connected)
    (hdial : made.isDial = true) {state after : σ} {answer : made.Answer}
    (hanswer : world.answer state made = (.answered answer, after)) :
    Proven (certified config.credentials.authorities) bears nodeId (peer after) := by
  cases made with
  | dial id route =>
      obtain ⟨rfl, name, hname, hroute⟩ := hmade
      obtain ⟨server, hserver, hproved⟩ :=
        henforces.dialled state id route _ answer after hanswer hroute
      exact ⟨name, server, hname, hserver, hproved⟩
  | _ => cases hdial

omit henforces in
/-- What a pinned call sends is received by the server that is connected. -/
theorem proven_of_sent {made : Call} (hmade : made.Pinned config nodeId connected) {state : σ}
    (hpeer : connected = true →
      Proven (certified config.credentials.authorities) bears nodeId (peer state)) :
    ∀ delivery ∈ made.deliveries (peer state), delivery.nodeId = nodeId ∧
      Proven (certified config.credentials.authorities) bears nodeId delivery.receiver := by
  intro delivery hsent
  cases made with
  | agent id context request =>
      obtain ⟨rfl, hconnected⟩ := hmade
      obtain rfl := List.mem_singleton.1 hsent
      exact ⟨rfl, hpeer hconnected⟩
  | _ => cases hsent

/-- Over a transport that enforces what is dialled, a program that pins its calls to a node is
received by servers that have proved to bear the name of the node. -/
theorem Pins.deliveries {program : Program α} (h : program.Pins config nodeId connected)
    {state : σ} (hpeer : connected = true →
      Proven (certified config.credentials.authorities) bears nodeId (peer state)) :
    ∀ delivery ∈ program.deliveries world peer state, delivery.nodeId = nodeId ∧
      Proven (certified config.credentials.authorities) bears nodeId delivery.receiver := by
  induction program generalizing connected state with
  | done result =>
      intro delivery hdelivery
      cases hdelivery
  | call made next ih =>
      obtain ⟨hmade, hanswered, hfailed⟩ := h
      -- Nothing but dialling changes the server at the other end.
      have hkept : made.isDial = false → connected = true →
          Proven (certified config.credentials.authorities) bears nodeId
            (peer (world.answer state made).2) := by
        intro hdial hconnected
        rw [henforces.kept state made hdial]
        exact hpeer hconnected
      intro delivery hdelivery
      rw [Program.deliveries, List.mem_append] at hdelivery
      rcases hdelivery with hsent | hlater
      · exact proven_of_sent hmade hpeer delivery hsent
      · cases hanswer : world.answer state made with
        | mk outcome after =>
            rw [hanswer] at hlater hkept
            cases outcome with
            | answered answer =>
                refine ih _ (hanswered answer) (fun hconnected => ?_) delivery hlater
                cases hdial : made.isDial with
                | false =>
                    rw [hdial, Bool.or_false] at hconnected
                    exact hkept hdial hconnected
                | true => exact proven_of_dial henforces hmade hdial hanswer
            | failed failure =>
                refine ih _ (hfailed failure) (fun hconnected => ?_) delivery hlater
                obtain ⟨hbefore, hdial⟩ := Bool.and_eq_true_iff.1 hconnected
                exact hkept (by simpa using hdial) hbefore
            | hung => cases hlater

end Deliveries

end Program

/-! ### What programs send -/

namespace Broker

variable {broker : Broker} {config : Tls.Config} (htls : broker.tls = some config)
  (nodeId : String) {connected : Bool}
include htls

/-- After a node was dialled, requests may follow. -/
theorem connect_pins {β : Type} (surface : Agent.Surface) {next : Unit → Program β}
    (hnext : ∀ answer, (next answer).Pins config nodeId true) :
    (broker.connect nodeId surface >>= next).Pins config nodeId connected := by
  cases hroute : broker.route nodeId surface with
  | error error =>
      rw [connect_unrouted hroute]
      trivial
  | ok route =>
      obtain ⟨name, -, hname, hpinned, -⟩ := route_pinned htls hroute
      rw [connect_routed hroute, Program.proceed_bind, Program.pins_proceed]
      refine ⟨⟨rfl, name, hname, hpinned⟩, fun answer => ?_⟩
      rw [Call.isDial, Bool.or_true]
      exact hnext answer

/-- A request of its own is sent to the node that was dialled for it. -/
theorem send_pins (context : String) (request : Agent.Request) :
    (broker.send nodeId context request).Pins config nodeId connected :=
  connect_pins htls nodeId _ fun _ => (Program.pins_proceed _ _).2 ⟨⟨rfl, rfl⟩, fun _ => trivial⟩

/-- So is the policy of a workload. -/
theorem push_policy_pins (ref : WorkloadRef) (policy : Option TrafficPolicy) :
    (Native.pushPolicy broker nodeId ref policy).Pins config nodeId connected :=
  .lift fun _ _ => send_pins htls nodeId _ _

end Broker

/-- Whether all that a backend calls for a node goes to this node. -/
structure Backend.Pins (config : Tls.Config) (backend : Backend) : Prop where
  deploy : ∀ nodeId workload, (backend.deploy nodeId workload).Pins config nodeId false
  redeploy : ∀ nodeId workload, (backend.redeploy nodeId workload).Pins config nodeId false
  command : ∀ nodeId ref command,
    (backend.command nodeId ref command).Pins config nodeId false
  status : ∀ nodeId ref, (backend.status nodeId ref).Pins config nodeId false
  undeploy : ∀ nodeId ref, (backend.undeploy nodeId ref).Pins config nodeId false
  setPolicy : ∀ nodeId ref payload,
    (backend.setPolicy nodeId ref payload).Pins config nodeId false
  deletePolicy : ∀ nodeId ref, (backend.deletePolicy nodeId ref).Pins config nodeId false

section Backends

variable {broker : Broker} {config : Tls.Config} (htls : broker.tls = some config)
include htls

/-- Handing everything to the node calls this node alone. -/
theorem Native.backend_pins : (Native.backend broker).Pins config where
  deploy nodeId _ := Broker.send_pins htls nodeId _ _
  redeploy nodeId _ := Broker.send_pins htls nodeId _ _
  command nodeId _ _ := Broker.send_pins htls nodeId _ _
  status nodeId _ := .bind (Broker.send_pins htls nodeId _ _) fun _ => trivial
  undeploy nodeId _ := Broker.send_pins htls nodeId _ _
  setPolicy nodeId ref payload := by
    cases payload with
    | native policy => exact Broker.push_policy_pins htls nodeId ref (some policy)
    | cluster policy => trivial
  deletePolicy nodeId ref := Broker.push_policy_pins htls nodeId ref none

/-- Keeping workloads in the cluster calls the node for policies at most. -/
theorem Cluster.Placing.backend_pins {placing : Placing}
    (hpolicies : placing.policies = .node broker ∨ placing.policies = .networkPolicy) :
    placing.backend.Pins config := by
  have hdelete : ∀ nodeId ref, (placing.deletePolicy nodeId ref).Pins config nodeId false := by
    intro nodeId ref
    rcases hpolicies with hroute | hroute
    · simp only [deletePolicy, hroute]
      exact Broker.push_policy_pins htls nodeId ref none
    · refine Program.pins_of_only ((placing.delete_policy_only nodeId ref).mono fun _ hmakes => ?_)
      cases hmakes with
      | deletePolicy _ _ => simp [Call.destination]
      | deleteOnNode hnode _ => cases hroute.symm.trans hnode
  exact {
    deploy nodeId workload :=
      Program.pins_of_only ((placing.deploy_only nodeId workload).mono fun _ hmakes => by
        cases hmakes <;> simp [Call.destination])
    redeploy nodeId workload :=
      Program.pins_of_only ((placing.redeploy_only nodeId workload).mono fun _ hmakes => by
        cases hmakes <;> simp [Call.destination])
    command nodeId ref command :=
      Program.pins_of_only ((placing.command_only nodeId ref command).mono fun _ hmakes => by
        cases hmakes <;> simp [Call.destination])
    status nodeId ref :=
      Program.pins_of_only ((placing.status_only nodeId ref).mono fun _ hmakes => by
        cases hmakes
        simp [Call.destination])
    undeploy nodeId ref := by
      refine .lift fun serial _ => .bind
        ((Program.pins_proceed _ _).2 ⟨trivial, fun _ => trivial⟩) fun (existed : Bool) => ?_
      cases existed with
      | false => trivial
      | true => exact hdelete nodeId ref
    setPolicy nodeId ref payload := by
      rcases hpolicies with hroute | hroute
      · simp only [backend, setPolicy, hroute]
        exact (Native.backend_pins htls).setPolicy nodeId ref payload
      · refine Program.pins_of_only
          ((placing.set_policy_only nodeId ref payload).mono fun _ hmakes => ?_)
        cases hmakes with
        | applyPolicy _ _ _ => simp [Call.destination]
        | setOnNode hnode _ => cases hroute.symm.trans hnode
    deletePolicy := hdelete }

/-- Whatever the mode, a controller calls no other node than it was asked to. -/
theorem Controller.backend_of_pins (settings : Settings) (mode : Mode) :
    (backendOf settings broker mode).Pins config := by
  cases mode with
  | native => exact Native.backend_pins htls
  | kubernetes => exact Cluster.Placing.backend_pins htls (.inl rfl)
  | kubernetesOvn => exact Cluster.Placing.backend_pins htls (.inr rfl)

end Backends

/-- Records are sent over the connection that is there, and leave it to what follows. -/
theorem DnsChange.send_records_pins (change : DnsChange) {config : Tls.Config} (nodeId : String)
    {next : Unit → Program Unit} (hnext : (next ()).Pins config nodeId true)
    (records : List DnsRecord) :
    (change.sendRecords nodeId records >>= next).Pins config nodeId true := by
  induction records with
  | nil => exact hnext
  | cons record rest ih =>
      rw [sendRecords, Program.make_bind, Program.proceed_bind, Program.pins_proceed]
      exact ⟨⟨rfl, rfl⟩, fun _ => ih⟩

/-- So are forwarders. -/
theorem DnsChange.send_forwarders_pins (change : DnsChange) {config : Tls.Config}
    (nodeId : String) (dns : DnsConfig) :
    (change.sendForwarders nodeId dns).Pins config nodeId true := by
  unfold sendForwarders
  split
  · trivial
  · rw [Program.make_bind, Program.pins_proceed]
    exact ⟨⟨rfl, rfl⟩, fun _ => trivial⟩

namespace Controller

variable {settings : Settings} {broker : Broker} {tls : Tls.Config} {hasCluster : Bool}
  {controller : Controller}

/-- All that a controller calls for a job on a node goes to this node, dialled under its name. -/
theorem perform_pins (htls : broker.tls = some tls)
    (hcontroller : ofSettings settings broker hasCluster = .ok controller) (nodeId : String)
    (job : Job) : (controller.perform nodeId job).program.Pins tls nodeId false := by
  obtain rfl := of_settings_ok hcontroller
  have hbackend := backend_of_pins htls settings settings.mode
  have hsend : ∀ context request, (broker.send nodeId context request).Pins tls nodeId false :=
    fun context request => Broker.send_pins htls nodeId context request
  cases job with
  | action action =>
      refine .bind ?_ fun _ => trivial
      cases action with
      | deploy workload =>
          have hdeploy := hbackend.deploy nodeId workload
          exact .bind (.bind trivial fun _ => .bind hdeploy fun _ => trivial) fun _ => trivial
      | redeploy workload =>
          have hredeploy := hbackend.redeploy nodeId workload
          exact .bind (.bind trivial fun _ => hredeploy) fun _ => trivial
      | command ref command =>
          have hcommand := hbackend.command nodeId ref command
          exact .bind (.bind trivial fun _ => .bind hcommand fun _ => trivial) fun _ => trivial
      | undeploy ref =>
          have hundeploy := hbackend.undeploy nodeId ref
          exact .bind (.bind trivial fun _ => hundeploy) fun _ => trivial
  | status ref =>
      exact .bind (.bind trivial fun _ => hbackend.status nodeId ref) fun _ => trivial
  | setPolicy ref payload =>
      exact .bind trivial fun _ => .bind trivial fun _ => .bind trivial fun _ =>
        hbackend.setPolicy nodeId ref payload
  | deletePolicy ref => exact .bind trivial fun _ => hbackend.deletePolicy nodeId ref
  | setInterfacePolicy interface policy =>
      exact .bind trivial fun _ => .lift fun _ _ => hsend _ _
  | deleteInterfacePolicy interface =>
      exact .bind trivial fun _ => .lift fun _ _ => hsend _ _
  | changeDns change config aliases =>
      have hpush : (do
          let records ← (pushedRecords config aliases : Except Error _)
          broker.connect nodeId .ela
          change.sendRecords nodeId records
          change.sendForwarders nodeId config : Program Unit).Pins tls nodeId false :=
        .lift fun records _ => Broker.connect_pins htls nodeId _ fun _ =>
          change.send_records_pins nodeId (change.send_forwarders_pins nodeId config) records
      show (do
        if change = .apply then Error.ofCheck config.check
        let records ← (pushedRecords config aliases : Except Error _)
        broker.connect nodeId .ela
        change.sendRecords nodeId records
        change.sendForwarders nodeId config : Program Unit).Pins tls nodeId false
      split
      · exact .bind trivial fun _ => hpush
      · exact hpush
  | interfaces => exact .bind (hsend _ _) fun _ => trivial
  | interface id => exact .bind (hsend _ _) fun _ => trivial
  | updateInterface interface => exact hsend _ _
  | updateInterfaces interfaces => exact hsend _ _
  | register =>
      exact .lift fun _ _ => (Program.pins_proceed _ _).2 ⟨trivial, fun _ => trivial⟩

/-- Carries jobs on nodes out one after another, and records what was sent to nodes for each. -/
def served {σ Server : Type} (controller : Controller) (world : World σ)
    (peer : σ → Option Server) :
    List (String × Job) → σ → List (String × List (Delivery Server))
  | [], _ => []
  | (nodeId, job) :: rest, state =>
    let operation := controller.perform nodeId job
    (nodeId, operation.program.deliveries world peer state) ::
      controller.served world peer rest (operation.run world state).2

end Controller

/-- A broker that encrypts dials every node by its own credentials, under the name of this node and
over an encrypted address, or it dials nothing and the attempt fails: this holds of every attempt of
a run, whatever came before. So in all that a controller with such a broker sends, a request for a
node is received by a server that has proved, by a certificate of an authority that the broker
trusts, to bear the name of the node, as far as the transport enforces what is dialled. -/
theorem connections_pinned {σ : Type} {broker : Broker} {config : Tls.Config}
    (htls : broker.tls = some config) (world : World σ) :
    (∀ operation requests state, ∀ attempt ∈ broker.attempts world operation requests state,
      attempt.Pinned broker config) ∧
    ∀ {Server : Type} (peer : σ → Option Server) (certified : List String → Server → Prop)
      (bears : Server → Net.ServerName → Prop), world.Enforces peer certified bears →
        ∀ settings hasCluster controller,
          Controller.ofSettings settings broker hasCluster = .ok controller →
            ∀ jobs state, ∀ entry ∈ controller.served world peer jobs state,
              ∀ delivery ∈ entry.2, delivery.nodeId = entry.1 ∧
                Proven (certified config.credentials.authorities) bears entry.1
                  delivery.receiver := by
  refine ⟨fun operation requests state => Broker.attempts_pinned htls world operation _ _, ?_⟩
  intro Server peer certified bears henforces settings hasCluster controller hcontroller jobs
  induction jobs with
  | nil =>
      intro state entry hentry
      cases hentry
  | cons request rest ih =>
      intro state
      obtain ⟨nodeId, job⟩ := request
      have hpins := Controller.perform_pins htls hcontroller nodeId job
      have hfirst : ∀ delivery ∈
          (controller.perform nodeId job).program.deliveries world peer state, _ :=
        hpins.deliveries henforces nofun
      exact List.forall_mem_cons.2 ⟨hfirst, ih _⟩

/-! ### A transport that shows one certificate -/

/-- Whether one of several authorities issued a certificate. -/
def ServerIdentity.CertifiedBy (authorities : List String) (identity : ServerIdentity) : Prop :=
  identity.authority ∈ authorities

/-- Whether a certificate was issued for a name. -/
def ServerIdentity.Bears (identity : ServerIdentity) (name : Net.ServerName) : Prop :=
  name.isProvedBy identity.name = true

/-- A scripted world in which whoever is dialled shows one certificate. -/
def Script.showing (identity : ServerIdentity) : World Script :=
  ⟨fun script => { script with identity := some identity }.answer⟩

namespace Script

variable (identity : ServerIdentity)

/-- A connection is made if nodes accept connections and the certificate proves what it has to. -/
theorem showing_dial (script : Script) (nodeId : String) (route : Route) :
    ∃ after, (showing identity).answer script (.dial nodeId route) =
      (if !script.refuse && identity.proves route then .answered () else .failed (), after) :=
  ⟨_, rfl⟩

/-- Whether nodes accept connections stays as it is. -/
theorem showing_refuse {α : Type} (program : Program α) (operation : String) {script : Script}
    (h : script.refuse = false) :
    (program.run (showing identity) operation script).2.refuse = false := by
  have hkept : ∀ (state : Script) (call : Call), True → state.refuse = false →
      ((showing identity).answer state call).2.refuse = false := by
    intro state call _ hstate
    cases call <;> exact hstate
  exact Program.run_keeps _ _ hkept (Program.only_any _) h

/-- That enforces what is dialled: no connection is made unless the certificate is one of an
authority that is trusted, and proves the name. -/
theorem showing_enforces : (showing identity).Enforces (fun _ => some identity)
    ServerIdentity.CertifiedBy ServerIdentity.Bears where
  dialled := by
    intro script nodeId route connector answer after hanswer htls
    obtain ⟨found, hdial⟩ := showing_dial identity script nodeId route
    have hproves : identity.proves route = true := by
      by_contra hrefused
      rw [hdial, Bool.eq_false_iff.2 hrefused, Bool.and_false] at hanswer
      cases hanswer
    unfold ServerIdentity.proves at hproves
    rw [htls] at hproves
    obtain ⟨hcertified, hbears⟩ := Bool.and_eq_true_iff.1 hproves
    exact ⟨identity, rfl, List.contains_iff_mem.1 hcertified, hbears⟩
  kept _ _ _ := rfl

end Script

namespace Sample

/-- What an authority shows of itself when it connects to its own servers. -/
def credentials : Pki.ClientCredentials :=
  ⟨Pki.Sample.authority.certificate, Pki.Sample.key, Pki.Sample.authority.certificate⟩

/-- Reaches every node at one address, encrypted with the credentials. -/
def pinnedBroker : Broker :=
  { nodeBroker with tls := some credentials.tls }

/-- Reaches the same address with credentials that are no certificates. -/
def garbledBroker : Broker :=
  { nodeBroker with tls := some ⟨⟨none, ["no certificate"]⟩, none⟩ }

/-- The controller that hands everything to nodes over encrypted connections. -/
def pinnedController : Controller :=
  ⟨.native, pinnedBroker, Native.backend pinnedBroker⟩

/-- The certificate of the first node. -/
def identity : ServerIdentity :=
  ⟨node.id, credentials.authority⟩

/-- The library can make use of the credentials. -/
theorem credentials_accepted : library.accepts credentials.tls.credentials = true := by
  obtain ⟨certificate, issuer, hread, -⟩ := Pki.Sample.certificate_reads
  exact Pki.tls_accepts (Pki.Certificate.of_text_render hread _)
    (Pki.PrivateKey.of_text_text Pki.Sample.key_reads)
    (Pki.Authority.carries_of_make Pki.Sample.in_order.makes)

/-- It can make no use of what is no certificate. -/
theorem garbled_refused : library.accepts ⟨none, ["no certificate"]⟩ = false := by
  decide +kernel

/-- The name that the second node must prove. -/
theorem other_name : Net.ServerName.parse? otherNode.id = some (.host otherNode.id) := by
  decide +kernel

/-- The request for the interfaces of a node is received by the server that shows the certificate of
the first node if this bears the name of the node, and by nobody otherwise. -/
theorem interfaces_deliveries {nodeId : String} {name : Net.ServerName}
    (hname : Net.ServerName.parse? nodeId = some name) {script : Script}
    (haccepts : script.refuse = false) :
    (pinnedController.perform nodeId .interfaces).program.deliveries (Script.showing identity)
        (fun _ => some identity) script =
      if name.isProvedBy node.id then [⟨nodeId, .interfaces, some identity⟩] else [] := by
  obtain ⟨endpoint, hendpoint⟩ : ∃ endpoint,
      pinnedBroker.endpoint? "192.0.2.7" .ela = some endpoint :=
    Option.isSome_iff_exists.1 (by decide +kernel)
  have hhost : pinnedBroker.resolve nodeId = .ok "192.0.2.7" :=
    congrArg Except.ok (by decide +kernel : targetHost "192.0.2.7" = "192.0.2.7")
  let route : Route := ⟨.ela, endpoint, some ⟨credentials.tls.credentials, name⟩⟩
  have hroute : pinnedBroker.route nodeId .ela = .ok route := Broker.route_iff.2
    ⟨_, endpoint, _, hhost, hendpoint, .pinned rfl credentials_accepted hname, rfl⟩
  have hproves : identity.proves route = name.isProvedBy node.id := by
    have hcontains : credentials.tls.credentials.authorities.contains identity.authority = true :=
      List.contains_iff_mem.2 List.mem_cons_self
    simp only [ServerIdentity.proves, route]
    rw [hcontains, Bool.true_and, identity]
  obtain ⟨after, hdial⟩ := Script.showing_dial identity script nodeId route
  rw [haccepts, hproves, Bool.not_false, Bool.true_and] at hdial
  have hprogram : (pinnedController.perform nodeId .interfaces).program =
      .proceed (.dial nodeId route) fun _ =>
        .proceed (.agent nodeId s!"get interfaces of node {nodeId}" .interfaces) fun _ =>
          .done (.ok ()) := by
    show (pinnedBroker.connect nodeId .ela >>= fun _ => Program.make _) >>= (fun _ => _) = _
    rw [Broker.connect_routed hroute, Program.proceed_bind, Program.proceed_bind]
    exact congrArg (Program.proceed _) (funext fun _ => Program.make_bind _ _)
  rw [hprogram, Program.deliveries_proceed, hdial]
  cases name.isProvedBy node.id with
  | true => exact Program.deliveries_last _ _ _ _ _
  | false => rfl

end Sample

open Sample in
/-- One server, at the address that both nodes registered, shows the certificate of the first of
them: it receives what is sent to this node, and nothing that is sent to the other. With credentials
that the library can make no use of, nothing is dialled at all. -/
theorem connections_pinned_two_nodes :
    let start := script bare []
    let served := pinnedController.served (Script.showing identity) (fun _ => some identity)
      [(node.id, .interfaces), (otherNode.id, .interfaces), (node.id, .interfaces)] start
    (∀ attempt ∈ pinnedBroker.attempts (Script.showing identity) "connect"
        [(node.id, .eva), (otherNode.id, .ela)] start,
      attempt.Pinned pinnedBroker credentials.tls) ∧
      served.map (fun entry => entry.2.map Delivery.nodeId) = [[node.id], [], [node.id]] ∧
        (∀ entry ∈ served, ∀ delivery ∈ entry.2, delivery.nodeId = entry.1 ∧
          Proven (ServerIdentity.CertifiedBy [credentials.authority]) ServerIdentity.Bears entry.1
            delivery.receiver) ∧
        ∀ attempt ∈ garbledBroker.attempts (Script.showing identity) "connect"
          [(node.id, .eva), (otherNode.id, .ela)] start, attempt.calls = [] ∧
            ∃ cause, attempt.result =
              .error (.connection (Broker.connecting attempt.nodeId attempt.surface) cause) := by
  intro start served
  have hcontroller : Controller.ofSettings .standard pinnedBroker false = .ok pinnedController :=
    rfl
  have htls : pinnedBroker.tls = some credentials.tls := rfl
  obtain ⟨hattempts, hserved⟩ := connections_pinned htls (Script.showing identity)
  refine ⟨hattempts _ _ _, ?_, ?_, ?_⟩
  · have hfirst : start.refuse = false := rfl
    have hsecond := Script.showing_refuse identity
      (pinnedController.perform node.id .interfaces).program
      (pinnedController.perform node.id .interfaces).name hfirst
    have hthird := Script.showing_refuse identity
      (pinnedController.perform otherNode.id .interfaces).program
      (pinnedController.perform otherNode.id .interfaces).name hsecond
    simp only [served, Controller.served, Operation.run, List.map_cons, List.map_nil]
    rw [interfaces_deliveries node_name hfirst, interfaces_deliveries other_name hsecond,
      interfaces_deliveries node_name hthird]
    have hproved : (Net.ServerName.host node.id).isProvedBy node.id = true := by decide +kernel
    have hother : (Net.ServerName.host otherNode.id).isProvedBy node.id = false := by
      decide +kernel
    rw [hproved, hother]
    rfl
  · exact hserved _ _ _ (Script.showing_enforces identity) _ _ _ hcontroller _ _
  · intro attempt hattempt
    have hgarbled : garbledBroker.tls = some ⟨⟨none, ["no certificate"]⟩, none⟩ := rfl
    have hpinned := (connections_pinned hgarbled (Script.showing identity)).1 _ _ _ attempt hattempt
    exact hpinned.unbuilt "192.0.2.7" rfl (.inr (.inl garbled_refused))

end EdgeFleet
