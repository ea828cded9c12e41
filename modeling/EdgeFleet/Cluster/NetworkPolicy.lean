import EdgeFleet.Cluster.Object
import EdgeFleet.Error
import EdgeFleet.Record.ClusterPolicy

/-!
# Network policies

A network policy restricts what the pods that it selects may receive and send. A direction that it
does not list stays open, and so do the peers or the ports of a rule that names none.
`NetworkPolicy.ofPolicy` builds the one for a traffic policy.
-/

namespace EdgeFleet.Cluster

/-- A block of addresses without some parts of it. -/
structure AddressBlock where
  cidr : String
  except : Option (List String)
  deriving Repr, DecidableEq, Inhabited

/-- A port that a rule lets through. -/
structure PolicyPort where
  port : Option Int
  protocol : Option String
  deriving Repr, DecidableEq, Inhabited

/-- A rule of one direction. -/
structure PolicyRule where
  peers : Option (List AddressBlock)
  ports : Option (List PolicyPort)
  deriving Repr, DecidableEq, Inhabited

/-- A direction of traffic. -/
inductive Direction where
  | ingress
  | egress
  deriving Repr, DecidableEq, Inhabited

/-- What a network policy is to be. -/
structure NetworkPolicySpec where
  pods : LabelSelector
  directions : Option (List String)
  ingress : Option (List PolicyRule)
  egress : Option (List PolicyRule)
  deriving Repr, DecidableEq, Inhabited

/-- A network policy. -/
structure NetworkPolicy where
  metadata : Metadata
  spec : Option NetworkPolicySpec
  deriving Repr, DecidableEq, Inhabited

namespace Direction

/-- The name of a direction in a policy. -/
def name : Direction → String
  | .ingress => "Ingress"
  | .egress => "Egress"

/-- The member that holds the peers of a rule. -/
def peerKey : Direction → String
  | .ingress => "from"
  | .egress => "to"

end Direction

namespace AddressBlock

/-- Reads the block of a peer. -/
def ofJson? (value : Json) : Option AddressBlock := do
  let value ← Object.open? value
  let block ← Object.withDefault value "ipBlock" (.object []) Object.open?
  return {
    cidr := ← Object.withDefault block "cidr" "" Json.text?
    except := ← Object.optional block "except" (Object.listOf? Json.text?) }

/-- Writes a block as a peer. -/
def toJson (block : AddressBlock) : Json :=
  .object [("ipBlock", .compact [
    ("cidr", some (.string block.cidr)),
    ("except", block.except.map Json.strings)])]

end AddressBlock

namespace PolicyPort

/-- Reads a port. -/
def ofJson? (value : Json) : Option PolicyPort := do
  let value ← Object.open? value
  return {
    port := ← Object.optional value "port" Object.int32?
    protocol := ← Object.optional value "protocol" Json.text? }

/-- Writes a port. -/
def toJson (port : PolicyPort) : Json :=
  .compact [
    ("port", port.port.map .int),
    ("protocol", port.protocol.map .string)]

end PolicyPort

namespace PolicyRule

/-- Reads a rule of a direction. -/
def ofJson? (direction : Direction) (value : Json) : Option PolicyRule := do
  let value ← Object.open? value
  return {
    peers := ← Object.optional value direction.peerKey (Object.listOf? AddressBlock.ofJson?)
    ports := ← Object.optional value "ports" (Object.listOf? PolicyPort.ofJson?) }

/-- Writes a rule of a direction. -/
def toJson (direction : Direction) (rule : PolicyRule) : Json :=
  .compact [
    (direction.peerKey, rule.peers.map (Json.ofList AddressBlock.toJson)),
    ("ports", rule.ports.map (Json.ofList PolicyPort.toJson))]

end PolicyRule

namespace NetworkPolicySpec

/-- Reads what a network policy is to be. -/
def ofJson? (value : Json) : Option NetworkPolicySpec := do
  let value ← Object.open? value
  return {
    pods := ← Object.withDefault value "podSelector" default LabelSelector.ofJson?
    directions := ← Object.optional value "policyTypes" (Object.listOf? Json.text?)
    ingress := ← Object.optional value "ingress" (Object.listOf? (PolicyRule.ofJson? .ingress))
    egress := ← Object.optional value "egress" (Object.listOf? (PolicyRule.ofJson? .egress)) }

/-- Writes what a network policy is to be. -/
def toJson (spec : NetworkPolicySpec) : Json :=
  .compact [
    ("egress", spec.egress.map (Json.ofList (PolicyRule.toJson .egress))),
    ("ingress", spec.ingress.map (Json.ofList (PolicyRule.toJson .ingress))),
    ("podSelector", some spec.pods.toJson),
    ("policyTypes", spec.directions.map Json.strings)]

end NetworkPolicySpec

namespace NetworkPolicy

/-- Reads a network policy. -/
def ofJson? (value : Json) : Option NetworkPolicy := do
  let value ← Object.open? value
  Object.expect value "apiVersion" "networking.k8s.io/v1"
  Object.expect value "kind" "NetworkPolicy"
  return {
    metadata := ← Object.withDefault value "metadata" default Metadata.ofJson?
    spec := ← Object.optional value "spec" NetworkPolicySpec.ofJson? }

/-- Writes a network policy. -/
def toJson (policy : NetworkPolicy) : Json :=
  .compact [
    ("apiVersion", some (.string "networking.k8s.io/v1")),
    ("kind", some (.string "NetworkPolicy")),
    ("metadata", some policy.metadata.toJson),
    ("spec", policy.spec.map NetworkPolicySpec.toJson)]

/-- A list that is left out when it is empty: an empty list of peers would match none. -/
def unlessEmpty {α : Type} (items : List α) : Option (List α) :=
  if items.isEmpty then none else some items

/-- The peer for a block of a traffic policy. -/
def peerJson (block : IpBlock) : Json :=
  .object [("ipBlock", .compact [
    ("cidr", some block.cidr),
    ("except", (unlessEmpty block.except).map Json.strings)])]

/-- The port for a port of a traffic policy. -/
def portJson (port : ClusterPort) : Except Error Json := do
  let protocol ← Error.ofCheck port.clusterProtocol
  return .object [("port", port.port.toNat), ("protocol", protocol.name)]

/-- The rule for a rule of a traffic policy, for one direction. -/
def ruleJson (direction : Direction) (rule : ClusterRule) : Except Error Json := do
  let peers := rule.peers.map peerJson
  let ports ← rule.ports.mapM portJson
  return .compact [
    (direction.peerKey, (unlessEmpty peers).map .array),
    ("ports", (unlessEmpty ports).map .array)]

/-- The rules of one direction of a traffic policy, if it has any. -/
def rulesJson (direction : Direction) (given : List ClusterRule) : Except Error (Option Json) := do
  let rules ← given.mapM (ruleJson direction)
  return (unlessEmpty rules).map .array

/-- The directions that a traffic policy restricts: those that it has rules for. -/
def restricted (policy : ClusterPolicy) : List Direction :=
  (if policy.egress.isEmpty then [] else [.egress]) ++
    (if policy.ingress.isEmpty then [] else [.ingress])

/-- The network policy for a traffic policy, on the pods with the given labels, as it is written. -/
def policyJson (policy : ClusterPolicy) (name namespaceName : String) (pods : Labels) :
    Except Error Json := do
  let egress ← rulesJson .egress policy.egress
  let ingress ← rulesJson .ingress policy.ingress
  let directions := (restricted policy).map Direction.name
  return .object [
    ("apiVersion", "networking.k8s.io/v1"),
    ("kind", "NetworkPolicy"),
    ("metadata", .object [
      ("name", name),
      ("namespace", namespaceName),
      ("labels", Object.ofLabels pods)]),
    ("spec", .compact [
      ("egress", egress),
      ("ingress", ingress),
      ("podSelector", some (.object [("matchLabels", Object.ofLabels pods)])),
      ("policyTypes", some (.strings directions))])]

/-- The network policy for a traffic policy, on the pods with the given labels. It is written down
first, and then read as an object of the cluster. -/
def ofPolicy (policy : ClusterPolicy) (name namespaceName : String) (pods : Labels) :
    Except Error NetworkPolicy := do
  Error.ofCheck policy.check
  let written ← policyJson policy name namespaceName pods
  match ofJson? written with
  | some object => return object
  | none => throw .serialization

end NetworkPolicy

end EdgeFleet.Cluster
