import EdgeFleet.Record.ClusterPolicy
import EdgeFleet.Record.Dns
import EdgeFleet.Record.Node
import EdgeFleet.Record.TrafficPolicy

/-!
# Records

A record is any of the entities that an inventory holds. In a document it is written with its
kind: as a map with the kind among its entries, or as a list with the kind at its head.
`Record.ofDocument?` reads it back from what `Record.toDocument` writes.
-/

namespace EdgeFleet

/-- An entity of any kind. -/
inductive Record where
  | node (node : Node)
  | target (target : NodeTarget)
  | app (app : App)
  | vnf (vnf : Vnf)
  | placement (family : WorkloadClass) (placement : Placement)
  | trafficPolicy (policy : TrafficPolicy)
  | clusterPolicy (policy : ClusterPolicy)
  | dnsConfig (config : DnsConfig)
  | dnsAlias (entry : DnsAlias)
  deriving Repr, DecidableEq

namespace Record

/-- The name of a record's kind. -/
def kind : Record → String
  | .node _ => "node"
  | .target _ => "grpc_target"
  | .app _ => "app"
  | .vnf _ => "vnf"
  | .placement .app _ => "node_app"
  | .placement .vnf _ => "node_vnf"
  | .trafficPolicy _ => "traffic_policy"
  | .clusterPolicy _ => "kube_ovn_policy"
  | .dnsConfig _ => "dns_config"
  | .dnsAlias _ => "dns_app_alias"

/-- The table that a record is stored in. Policies of both kinds share one. -/
def table : Record → String
  | .node _ => "nodes"
  | .target _ => "node_grpc_targets"
  | .app _ => "apps"
  | .vnf _ => "vnfs"
  | .placement .app _ => "nodes_apps"
  | .placement .vnf _ => "nodes_vnfs"
  | .trafficPolicy _ | .clusterPolicy _ => "traffic_policies"
  | .dnsConfig _ => "dns_configs"
  | .dnsAlias _ => "dns_configs_app_aliases"

/-- The ID of a record. -/
def id : Record → String
  | .node e => e.id
  | .target e => e.id
  | .app e => e.id
  | .vnf e => e.id
  | .placement _ e => e.id
  | .trafficPolicy e => e.id
  | .clusterPolicy e => e.id
  | .dnsConfig e => e.id
  | .dnsAlias e => e.id

/-- The record under another ID. -/
def withId (id : String) : Record → Record
  | .node e => .node { e with id }
  | .target e => .target { e with id }
  | .app e => .app { e with id }
  | .vnf e => .vnf { e with id }
  | .placement family e => .placement family { e with id }
  | .trafficPolicy e => .trafficPolicy { e with id }
  | .clusterPolicy e => .clusterPolicy { e with id }
  | .dnsConfig e => .dnsConfig { e with id }
  | .dnsAlias e => .dnsAlias { e with id }

/-- Checks a record. -/
def check : Record → Check
  | .node e => e.check
  | .target e => e.check
  | .app e => e.check
  | .vnf e => e.check
  | .placement family e => e.check family
  | .trafficPolicy e => e.check
  | .clusterPolicy e => e.check
  | .dnsConfig e => e.check
  | .dnsAlias e => e.check

/-- The fields of a record, in declared order. -/
def toFields : Record → List (String × Option Document)
  | .node e => e.toFields
  | .target e => e.toFields
  | .app e => e.toFields
  | .vnf e => e.toFields
  | .placement family e => e.toFields family
  | .trafficPolicy e => e.toFields
  | .clusterPolicy e => e.toFields
  | .dnsConfig e => e.toFields
  | .dnsAlias e => e.toFields

/-- Writes a record: its kind, then its fields. -/
def toDocument (record : Record) : Document :=
  .ofFields (("kind", some (.text record.kind)) :: record.toFields)

/-- Reads a record of a known kind. -/
def ofKind? (kind : String) (content : Document) : Option Record :=
  match kind with
  | "node" => (Node.ofDocument? content).map .node
  | "grpc_target" => (NodeTarget.ofDocument? content).map .target
  | "app" => (App.ofDocument? content).map .app
  | "vnf" => (Vnf.ofDocument? content).map .vnf
  | "node_app" => (Placement.ofDocument? .app content).map (.placement .app)
  | "node_vnf" => (Placement.ofDocument? .vnf content).map (.placement .vnf)
  | "traffic_policy" => (TrafficPolicy.ofDocument? content).map .trafficPolicy
  | "kube_ovn_policy" => (ClusterPolicy.ofDocument? content).map .clusterPolicy
  | "dns_config" => (DnsConfig.ofDocument? content).map .dnsConfig
  | "dns_app_alias" => (DnsAlias.ofDocument? content).map .dnsAlias
  | _ => none

/-- Whether an entry of a map gives the kind of a record. -/
def isKindEntry (entry : Document × Document) : Bool :=
  entry.1.text? == some "kind"

/-- Reads a record. The kind must be given exactly once. -/
def ofDocument? : Document → Option Record
  | .map entries =>
    match entries.filter isKindEntry with
    | [(_, .text kind)] => ofKind? kind (.map (entries.filter fun entry => !isKindEntry entry))
    | _ => none
  | .list (.text kind :: items) => ofKind? kind (.list items)
  | _ => none

end Record

end EdgeFleet
