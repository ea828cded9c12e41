import EdgeFleet.Proofs.Orchestration.Exchange
import EdgeFleet.Proofs.Uri.Endpoint

/-!
# Routes to nodes

What a broker has found out by the time it dials. A route is made of the host of the node, at the
port of the surface, and of the credentials and the name that the server must prove (`route_iff`);
where one of them cannot be had or used, there is no route (`route_unbuilt`). `Broker.connect` dials
the route or nothing.
-/

namespace EdgeFleet

/-- A configuration with the name of a server can be made ready if the library accepts the
credentials and the name is one. The host does not matter. -/
theorem Tls.Config.connector_pinned_iff {library : Library} {config : Config} {name host : String}
    {connector : Connector} :
    (config.pinned name).connector? library host = some connector ↔
      library.accepts config.credentials = true ∧ ∃ server,
        Net.ServerName.parse? name = some server ∧ connector = ⟨config.credentials, server⟩ := by
  show (if library.accepts config.credentials then
    (Net.ServerName.parse? name).map (⟨config.credentials, ·⟩) else none) = some connector ↔ _
  by_cases haccepts : library.accepts config.credentials = true
  · rw [if_pos haccepts, Option.map_eq_some_iff]
    simp only [haccepts, true_and, eq_comm]
  · rw [if_neg haccepts]
    exact iff_of_false nofun fun h => haccepts h.1

namespace Broker

variable (broker : Broker) {nodeId : String} {surface : Agent.Surface} {route : Route}

/-- The scheme of what a broker dials. -/
def scheme : Uri.Scheme := if broker.tls.isSome then .https else .http

/-- What the address of a surface is read from: a host at the port of the surface. -/
def place (host : String) (surface : Agent.Surface) : String :=
  authorityHost host ++ ":" ++ toString (broker.port surface).toNat

/-- The address of a surface at a host. -/
def endpoint? (host : String) (surface : Agent.Surface) : Option Uri.Endpoint :=
  Uri.Endpoint.parse? broker.scheme (broker.place host surface)

variable {broker}

/-- Without a host there is no route. -/
theorem route_unresolved {error : Error} (h : broker.resolve nodeId = .error error)
    (surface : Agent.Surface) : broker.route nodeId surface = .error error := by
  rw [route, h]
  rfl

/-- With a host there is a route if its address can be read and, where connections are encrypted,
this can be arranged under the name of the node. -/
theorem route_resolved {host : String} (h : broker.resolve nodeId = .ok host)
    (surface : Agent.Surface) :
    broker.route nodeId surface =
      match broker.endpoint? host surface with
      | none => .error (.connection (connecting nodeId surface) .invalidAddress)
      | some endpoint =>
        match broker.tls with
        | none => .ok ⟨surface, endpoint, none⟩
        | some config =>
          match (config.pinned nodeId).connector? broker.library host with
          | none => .error (.connection (connecting nodeId surface) .transport)
          | some connector => .ok ⟨surface, endpoint, some connector⟩ := by
  simp only [route, h, bind, Except.bind, endpoint?, scheme, place]
  cases Uri.Endpoint.parse? (if broker.tls.isSome then .https else .http)
      (authorityHost host ++ ":" ++ toString (broker.port surface).toNat) with
  | none => rfl
  | some endpoint =>
      cases broker.tls with
      | none => rfl
      | some config => cases (config.pinned nodeId).connector? broker.library host <;> rfl

/-- Where there is no route, the host of the node cannot be had or cannot be connected to. -/
theorem route_error {error : Error} (h : broker.route nodeId surface = .error error) :
    broker.resolve nodeId = .error error ∨
      ∃ cause, error = .connection (connecting nodeId surface) cause := by
  cases hhost : broker.resolve nodeId with
  | error failure =>
      rw [route_unresolved hhost] at h
      obtain rfl := Except.error.inj h
      exact .inl rfl
  | ok host =>
      rw [route_resolved hhost] at h
      split at h
      · exact .inr ⟨_, (Except.error.inj h).symm⟩
      · split at h
        · cases h
        · split at h
          · exact .inr ⟨_, (Except.error.inj h).symm⟩
          · cases h

/-- What a broker encrypts a connection to a node with: nothing, or its own credentials, if the
library accepts them, and the name of the node. -/
inductive Encrypts (broker : Broker) (nodeId : String) : Option Tls.Connector → Prop
  | plain (htls : broker.tls = none) : Encrypts broker nodeId none
  | pinned {config : Tls.Config} {server : Net.ServerName} (htls : broker.tls = some config)
      (haccepts : broker.library.accepts config.credentials = true)
      (hserver : Net.ServerName.parse? nodeId = some server) :
      Encrypts broker nodeId (some ⟨config.credentials, server⟩)

/-- A route leads to the host of the node, encrypted as the broker encrypts. -/
theorem route_iff : broker.route nodeId surface = .ok route ↔
    ∃ host endpoint tls, broker.resolve nodeId = .ok host ∧
      broker.endpoint? host surface = some endpoint ∧ broker.Encrypts nodeId tls ∧
        route = ⟨surface, endpoint, tls⟩ := by
  constructor
  · intro h
    cases hhost : broker.resolve nodeId with
    | error error =>
        rw [route_unresolved hhost] at h
        cases h
    | ok host =>
        rw [route_resolved hhost] at h
        split at h
        next => cases h
        next endpoint hendpoint =>
          split at h
          next htls => exact ⟨host, endpoint, none, rfl, hendpoint, .plain htls,
            (Except.ok.inj h).symm⟩
          next config htls =>
            split at h
            next => cases h
            next connector hconnector =>
              obtain ⟨haccepts, server, hserver, rfl⟩ :=
                Tls.Config.connector_pinned_iff.1 hconnector
              exact ⟨host, endpoint, _, rfl, hendpoint, .pinned htls haccepts hserver,
                (Except.ok.inj h).symm⟩
  · rintro ⟨host, endpoint, tls, hhost, hendpoint, hencrypts, rfl⟩
    cases hencrypts with
    | plain htls => simp only [route_resolved hhost, hendpoint, htls]
    | @pinned config server htls haccepts hserver =>
        have hconnector : (config.pinned nodeId).connector? broker.library host =
            some ⟨config.credentials, server⟩ :=
          Tls.Config.connector_pinned_iff.2 ⟨haccepts, server, hserver, rfl⟩
        simp only [route_resolved hhost, hendpoint, htls, hconnector]

/-- A route leads to the surface that it was asked for. -/
theorem surface_of_route (h : broker.route nodeId surface = .ok route) :
    route.surface = surface := by
  obtain ⟨host, endpoint, tls, -, -, -, rfl⟩ := route_iff.1 h
  rfl

/-- What keeps a broker that encrypts from building the connection to a host: the address cannot be
read, the library can make no use of the credentials, or the node has no name that a server can
prove. -/
def Unbuilt (broker : Broker) (config : Tls.Config) (nodeId host : String)
    (surface : Agent.Surface) : Prop :=
  broker.endpoint? host surface = none ∨ broker.library.accepts config.credentials = false ∨
    Net.ServerName.parse? nodeId = none

/-- Where the connection cannot be built, connecting fails before anything is dialled. -/
theorem route_unbuilt {config : Tls.Config} {host : String} (htls : broker.tls = some config)
    (hhost : broker.resolve nodeId = .ok host)
    (h : broker.Unbuilt config nodeId host surface) :
    ∃ cause, broker.route nodeId surface =
      .error (.connection (connecting nodeId surface) cause) := by
  cases hroute : broker.route nodeId surface with
  | error error =>
      obtain herror | ⟨cause, rfl⟩ := route_error hroute
      · cases hhost.symm.trans herror
      · exact ⟨cause, rfl⟩
  | ok route =>
      obtain ⟨found, endpoint, tls, hfound, hendpoint, hencrypts, -⟩ := route_iff.1 hroute
      obtain rfl : host = found := Except.ok.inj (hhost.symm.trans hfound)
      cases hencrypts with
      | plain hplain => cases htls.symm.trans hplain
      | pinned hused haccepts hserver =>
          obtain rfl := Option.some.inj (htls.symm.trans hused)
          obtain hnone | hrefused | hnameless := h
          · cases hendpoint.symm.trans hnone
          · cases haccepts.symm.trans hrefused
          · cases hserver.symm.trans hnameless

/-! ### Connecting -/

/-- Connecting dials the route, if there is one. -/
theorem connect_routed (h : broker.route nodeId surface = .ok route) :
    broker.connect nodeId surface =
      .proceed (.dial nodeId route) fun answer => .done (.ok answer) := by
  rw [connect, h]
  rfl

/-- Without a route nothing is called. -/
theorem connect_unrouted {error : Error} (h : broker.route nodeId surface = .error error) :
    broker.connect nodeId surface = .done (.error error) := by
  rw [connect, h]
  rfl

/-- Connecting calls nothing but the route that was found. -/
theorem connect_calls {σ : Type} (world : World σ) (operation : String) (state : σ)
    (h : broker.route nodeId surface = .ok route) :
    ((broker.connect nodeId surface).exchanges world operation state).map Exchange.call =
      [.dial nodeId route] := by
  rw [connect_routed h, Program.exchanges_last]
  rfl

/-- Whatever is called is a route that was found. -/
theorem dials_route {σ : Type} {world : World σ} {operation : String} {state : σ} {call : Call}
    (h : call ∈ ((broker.connect nodeId surface).exchanges world operation state).map
      Exchange.call) :
    ∃ route, broker.route nodeId surface = .ok route ∧ call = .dial nodeId route := by
  cases hroute : broker.route nodeId surface with
  | error error =>
      rw [connect_unrouted hroute] at h
      cases h
  | ok route =>
      rw [connect_calls world operation state hroute] at h
      exact ⟨route, rfl, List.mem_singleton.1 h⟩

end Broker

end EdgeFleet
