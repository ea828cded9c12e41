import EdgeFleet.Agent.Surface
import EdgeFleet.Error
import EdgeFleet.Record.Node
import EdgeFleet.Settings
import EdgeFleet.Tls
import EdgeFleet.Uri.Endpoint

/-!
# Finding nodes

A directory knows the nodes and the addresses that they registered. `Broker.resolve` gives the
host of a node, which must have registered exactly once, and `Broker.route` the address of one of
its surfaces: the host, at the port that the settings give for the surface. A connection that is
encrypted is pinned to the node: the server must prove the node's ID as its name. If this cannot
be arranged, there is no route at all.
-/

namespace EdgeFleet

/-- What is known of nodes. -/
structure Directory where
  /-- The addresses that a node registered. -/
  targets : String → Except Error (List String)
  node : String → Except Error (Option Node)

/-- Where a connection goes, and what it is encrypted with. -/
structure Route where
  surface : Agent.Surface
  endpoint : Uri.Endpoint
  tls : Option Tls.Connector
  deriving Repr, DecidableEq

/-- How nodes are found and dialled. -/
structure Broker where
  directory : Directory
  elaPort : UInt16
  evaPort : UInt16
  /-- How connections are encrypted. Without this they are plain. -/
  tls : Option Tls.Config
  library : Tls.Library

/-- A host with its last colon and the port behind it cut off, if that is the only colon. -/
def withoutPort (text : String) : String :=
  let (host, rest) := text.toList.span (· != ':')
  match rest with
  | ':' :: port =>
    if (Text.natBelow? 65536 port).isSome then String.ofList host else text
  | _ => text

/-- The host of a registered address, without a port. -/
def targetHost (target : String) : String :=
  match Net.SocketAddress.parse? target with
  | some address => address.address.render
  | none => if (Net.Address.parse? target).isSome then target else withoutPort target

namespace Broker

/-- The broker that settings ask for. -/
def ofSettings (settings : Settings) (directory : Directory) (library : Tls.Library)
    (tls : Option Tls.Config) : Broker where
  directory := directory
  elaPort := settings.port .ela
  evaPort := settings.port .eva
  tls := tls
  library := library

/-- The port of a surface. -/
def port (broker : Broker) : Agent.Surface → UInt16
  | .eva => broker.evaPort
  | .ela => broker.elaPort

/-- The host of a node. -/
def resolve (broker : Broker) (nodeId : String) : Except Error String := do
  match ← broker.directory.targets nodeId with
  | [target] => return targetHost target
  | [] => throw (.notFound (.target nodeId))
  | many => throw (.connection s!"resolve node {nodeId}" (.targets many.length))

/-- What is tried when a surface of a node is connected to. -/
def connecting (nodeId : String) (surface : Agent.Surface) : String :=
  s!"connect to node {nodeId} ({surface.name})"

/-- A host in an authority: addresses with colons are bracketed. -/
def authorityHost (host : String) : String :=
  match Net.Address.parse? host with
  | some (.v6 _) => "[" ++ host ++ "]"
  | _ => host

/-- The way to a surface of a node. -/
def route (broker : Broker) (nodeId : String) (surface : Agent.Surface) : Except Error Route := do
  let host ← broker.resolve nodeId
  let fail (cause : ConnectionFault) : Except Error Route :=
    .error (.connection (connecting nodeId surface) cause)
  let scheme := if broker.tls.isSome then .https else .http
  let text := authorityHost host ++ ":" ++ toString (broker.port surface).toNat
  match Uri.Endpoint.parse? scheme text with
  | none => fail .invalidAddress
  | some endpoint =>
    match broker.tls with
    | none => return ⟨surface, endpoint, none⟩
    | some config =>
      match (config.pinned nodeId).connector? broker.library host with
      | none => fail .transport
      | some connector => return ⟨surface, endpoint, some connector⟩

end Broker

end EdgeFleet
