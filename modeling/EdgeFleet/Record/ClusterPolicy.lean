import EdgeFleet.Net.Network
import EdgeFleet.Record.Workload

/-!
# Traffic policies enforced by the cluster

What a workload may receive and send, in terms of address blocks and ports. A block may except
parts of itself, and `IpBlock.check` requires each of them to be a strictly smaller network inside
the block.
-/

namespace EdgeFleet

/-- A network with parts carved out of it. -/
structure IpBlock where
  cidr : String
  except : List String
  deriving Repr, DecidableEq, Inhabited

/-- A port of a rule, with the name of its protocol. -/
structure ClusterPort where
  port : UInt16
  protocol : String
  deriving Repr, DecidableEq, Inhabited

/-- A rule of one direction: the peers and the ports that it lets through. Without peers it lets
all peers through, and without ports all ports. -/
structure ClusterRule where
  description : String
  peers : List IpBlock
  ports : List ClusterPort
  deriving Repr, DecidableEq, Inhabited

/-- The rules for what a workload receives and for what it sends. -/
structure ClusterPolicy where
  id : String
  name : String
  ingress : List ClusterRule
  egress : List ClusterRule
  deriving Repr, DecidableEq, Inhabited

/-- The transport protocols that the cluster can tell apart. -/
inductive ClusterProtocol where
  | tcp
  | udp
  | sctp
  deriving Repr, DecidableEq, Inhabited

/-- The name of a protocol in cluster objects. -/
def ClusterProtocol.name : ClusterProtocol → String
  | .tcp => "TCP"
  | .udp => "UDP"
  | .sctp => "SCTP"

namespace IpBlock

/-- The network that a text names. A bare address names none. -/
def network (text : String) : Except NetworkFault Net.Network :=
  if text.toList.contains '/' then
    match Net.Network.parse? text with
    | some network => .ok network
    | none => .error (.unreadable text)
  else .error (.noLength text)

/-- The network that a text names, or a violation. -/
def checkedNetwork (text : String) : Except Violation Net.Network :=
  (network text).mapError fun cause => .of (.network cause)

/-- Checks one exception from a block. -/
def checkExcept (cidr : String) (parent : Net.Network) (except : String) : Check := do
  let child ← checkedNetwork except
  Check.require (child != parent) (.exceptSame except cidr)
  Check.require (parent.contains child.base) (.exceptOutside except cidr)
  Check.require (parent.length < child.length) (.exceptNotSmaller except)

/-- Checks a block: every exception is a strictly smaller network inside it. -/
def check (block : IpBlock) : Check := do
  let parent ← checkedNetwork block.cidr
  Check.each (fun i except =>
    Check.inside (.item "except" i) (checkExcept block.cidr parent except)) block.except

/-- Reads a block. -/
def ofDocument? (document : Document) : Option IpBlock := do
  let fields ← Fields.ofDocument? ["cidr", "except"] document
  return {
    cidr := ← fields.required "cidr" Document.text?
    except := ← fields.withDefault "except" [] Document.texts? }

/-- Writes a block. -/
def toDocument (block : IpBlock) : Document :=
  .ofFields [
    ("cidr", some (.text block.cidr)),
    ("except", some (.ofTexts block.except))]

end IpBlock

namespace ClusterPort

/-- The protocol of a port. Its name may be written in letters of either case. -/
def clusterProtocol (port : ClusterPort) : Except Violation ClusterProtocol :=
  match String.ofList (port.protocol.toList.map Char.toLower) with
  | "tcp" => .ok .tcp
  | "udp" => .ok .udp
  | "sctp" => .ok .sctp
  | _ => .error (.of (.clusterProtocol port.protocol))

/-- Reads a port. -/
def ofDocument? (document : Document) : Option ClusterPort := do
  let fields ← Fields.ofDocument? ["port", "protocol"] document
  return {
    port := UInt16.ofNat (← fields.required "port" (Document.natBelow? 0x10000))
    protocol := ← fields.required "protocol" Document.text? }

/-- Writes a port. -/
def toDocument (port : ClusterPort) : Document :=
  .ofFields [
    ("port", some (.int port.port.toNat)),
    ("protocol", some (.text port.protocol))]

end ClusterPort

namespace ClusterRule

/-- Checks a rule whose peers are called `peerField`. -/
def check (peerField : String) (rule : ClusterRule) : Check := do
  Check.each (fun i block => Check.inside (.item peerField i) block.check) rule.peers
  Check.each (fun i port =>
    Check.inside (.item "ports" i) (port.clusterProtocol.map fun _ => ())) rule.ports

/-- Reads a rule whose peers are called `peerField`. -/
def ofDocument? (peerField : String) (document : Document) : Option ClusterRule := do
  let fields ← Fields.ofDocument? ["description", peerField, "ports"] document
  return {
    description := ← fields.withDefault "description" "" Document.text?
    peers := ← fields.withDefault peerField [] (Document.listOf? IpBlock.ofDocument?)
    ports := ← fields.withDefault "ports" [] (Document.listOf? ClusterPort.ofDocument?) }

/-- Writes a rule whose peers are called `peerField`. -/
def toDocument (peerField : String) (rule : ClusterRule) : Document :=
  .ofFields [
    ("description", some (.text rule.description)),
    (peerField, some (.list (rule.peers.map IpBlock.toDocument))),
    ("ports", some (.list (rule.ports.map ClusterPort.toDocument)))]

end ClusterRule

namespace ClusterPolicy

/-- Checks a policy. It must have a rule in one of the directions. -/
def check (policy : ClusterPolicy) : Check := do
  Check.uuid "id" policy.id
  Check.nonEmpty "name" policy.name
  Check.require (!policy.ingress.isEmpty || !policy.egress.isEmpty) .noDirection
  Check.each (fun i rule => Check.inside (.item "ingress" i) (rule.check "from")) policy.ingress
  Check.each (fun i rule => Check.inside (.item "egress" i) (rule.check "to")) policy.egress

/-- Reads a policy. -/
def ofDocument? (document : Document) : Option ClusterPolicy := do
  let fields ← Fields.ofDocument? ["id", "name", "ingress_rules", "egress_rules"] document
  return {
    id := ← fields.required "id" Document.text?
    name := ← fields.required "name" Document.text?
    ingress := ← fields.withDefault "ingress_rules" []
      (Document.listOf? (ClusterRule.ofDocument? "from"))
    egress := ← fields.withDefault "egress_rules" []
      (Document.listOf? (ClusterRule.ofDocument? "to")) }

/-- The fields of a policy, in declared order. -/
def toFields (policy : ClusterPolicy) : List (String × Option Document) := [
  ("id", some (.text policy.id)),
  ("name", some (.text policy.name)),
  ("ingress_rules", some (.list (policy.ingress.map (ClusterRule.toDocument "from")))),
  ("egress_rules", some (.list (policy.egress.map (ClusterRule.toDocument "to"))))]

end ClusterPolicy

end EdgeFleet
