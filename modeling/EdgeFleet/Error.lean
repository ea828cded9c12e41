import EdgeFleet.Lifecycle
import EdgeFleet.Mode
import EdgeFleet.Pki.Fault
import EdgeFleet.Record.Workload
import EdgeFleet.RpcStatus

/-!
# Errors

Why an operation of the controller failed. The constructors of `Error` are the categories that
callers tell apart; within a category the cause is a value of its own type, and `Error.message`
is the one place where causes are put into words. `Error.ofStatus` sorts what a node says of a call
into these categories.
-/

namespace EdgeFleet

/-- What was looked for and is not there. -/
inductive Missing where
  | workload (id : String)
  | policy (id : String)
  | dnsConfig (id : String)
  | node (id : String)
  | target (nodeId : String)
  | clusterNode (nodeId : String)
  | deployment (name : String)
  | deploymentOf (name : String) (workload : WorkloadRef)
  /-- A node says so of a call. -/
  | byNode (context text : String)
  | reported (text : String)
  deriving Repr, DecidableEq

/-- The words for what is missing. -/
def Missing.message : Missing → String
  | .workload id => "unit " ++ id
  | .policy id => "traffic policy " ++ id
  | .dnsConfig id => "dns config " ++ id
  | .node id => "node " ++ id
  | .target nodeId => s!"node {nodeId} has no registered gRPC target"
  | .clusterNode nodeId => s!"no cluster node labelled node-id={nodeId}"
  | .deployment name => "deployment " ++ name
  | .deploymentOf name ref => s!"deployment {name} for {ref.name}"
  | .byNode context text => context ++ ": " ++ text
  | .reported text => text

/-- Why the present state does not allow an operation. -/
inductive Precondition where
  | command (command : Command) (status : Status)
  | deploymentExists (name : String)
  | clusterNodes (count : Nat) (nodeId : String)
  | interfacePolicies
  /-- A node says so of a call. -/
  | byNode (context text : String)
  | reported (text : String)
  deriving Repr, DecidableEq

/-- The words for a precondition that does not hold. -/
def Precondition.message : Precondition → String
  | .command given status =>
    let expected :=
      match given with
      | .start => "not stopped or deployed"
      | .stop | .restart => "not running"
    s!"cannot {given.name} unit: {expected} (status: {status.name})"
  | .deploymentExists name => s!"deployment {name} already exists"
  | .clusterNodes count nodeId =>
    s!"{count} cluster nodes labelled node-id={nodeId}, expected exactly one"
  | .interfacePolicies => "interface policies are not supported in kubernetes-ovn mode"
  | .byNode context text => context ++ ": " ++ text
  | .reported text => text

/-- Why input was refused. -/
inductive Refusal where
  | violation (violation : Violation)
  | record (index : Nat) (table : String) (violation : Violation)
  | duplicate (table id : String)
  | aliasConfig (entry config : String)
  | aliasApp (entry app : String)
  | aliasRepeated (config app : String)
  | aliasForeign (entry owner config : String)
  | noCluster (mode : Mode)
  | policyKind (kind : PolicyKind) (mode : Mode)
  | emptyId (family : WorkloadClass)
  | virtualMachine (workload : WorkloadRef)
  | portProtocol (protocol : PortProtocol)
  | notForNode
  | notForCluster
  | reported (text : String)
  deriving Repr, DecidableEq

/-- The words for a refusal. -/
def Refusal.message : Refusal → String
  | .violation found => found.message
  | .record index table found => s!"records[{index}] ({table}): " ++ found.message
  | .duplicate table id => s!"duplicate {table} id {id}"
  | .aliasConfig entry config => s!"dns alias {entry} references unknown dns config {config}"
  | .aliasApp entry app => s!"dns alias {entry} references unknown app {app}"
  | .aliasRepeated config app =>
    s!"duplicate record detected for dns_config_id {config} and app_id {app}"
  | .aliasForeign entry owner config =>
    s!"dns alias {entry} belongs to dns config {owner}, not {config}"
  | .noCluster mode => s!"orchestration mode {mode.title} requires a Kubernetes client"
  | .policyKind kind mode => s!"{kind.name} policy cannot be applied in {mode.title} mode"
  | .emptyId family => family.name ++ " id cannot be empty"
  | .virtualMachine workload =>
    workload.name ++ " cannot be deployed to Kubernetes: VM units are not supported"
  | .portProtocol protocol =>
    s!"ports: protocol {protocol.name} is not supported by Kubernetes"
  | .notForNode => "kube-ovn policies cannot be pushed to a node"
  | .notForCluster => "native policies cannot be enforced as NetworkPolicies"
  | .reported text => text

/-- What ran out of time. -/
inductive Overrun where
  | operation (name : String)
  /-- A node says so of a call. -/
  | byNode (context text : String)
  | reported (text : String)
  deriving Repr, DecidableEq

/-- The words for what ran out of time. -/
def Overrun.message : Overrun → String
  | .operation name => name
  | .byNode context text => context ++ ": " ++ text
  | .reported text => text

/-- Why a node could not be reached. -/
inductive ConnectionFault where
  | transport
  | invalidAddress
  | targets (count : Nat)
  | reported (text : String)
  deriving Repr, DecidableEq

/-- The words for why a node could not be reached. -/
def ConnectionFault.message : ConnectionFault → String
  | .transport => "transport error"
  | .invalidAddress => "invalid URI"
  | .targets count => s!"{count} registered gRPC targets, expected exactly one"
  | .reported text => text

/-- What the cluster says of a request that it refused. -/
structure ClusterStatus where
  code : Nat
  status : String
  reason : String
  message : String
  deriving Repr, DecidableEq

/-- Why a request to the cluster failed. -/
inductive ClusterFault where
  | refused (status : ClusterStatus)
  /-- The answer is not what was asked for. -/
  | undecodable
  | http
  /-- The request cannot be written down. -/
  | unbuildable
  /-- The cluster could not be reached. -/
  | service
  /-- The answer is not text. -/
  | notText
  | other
  deriving Repr, DecidableEq

/-- The words for why a request to the cluster failed. -/
def ClusterFault.message : ClusterFault → String
  | .refused status => s!"ApiError: {status.message}: {status.reason}"
  | .undecodable => "Error deserializing response"
  | .http => "HttpError"
  | .unbuildable => "Failed to build request"
  | .service => "ServiceError"
  | .notText => "UTF-8 Error"
  | .other => "error"

/-- Why an operation failed. A `context` says what was being tried. -/
inductive Error where
  | notFound (cause : Missing)
  | failedPrecondition (cause : Precondition)
  | validation (cause : Refusal)
  | deadlineExceeded (cause : Overrun)
  | connection (context : String) (cause : ConnectionFault)
  | rpc (context : String) (cause : RpcStatus)
  | cluster (context : String) (cause : ClusterFault)
  | pki (cause : Pki.Fault)
  | file (cause : Files.Fault)
  | serialization
  | internal (text : String)
  deriving Repr, DecidableEq

namespace Error

/-- The words for an error. -/
def message : Error → String
  | .notFound cause => "not found: " ++ cause.message
  | .failedPrecondition cause => "failed precondition: " ++ cause.message
  | .validation cause => "validation error: " ++ cause.message
  | .deadlineExceeded cause => "deadline exceeded: " ++ cause.message
  | .connection context cause => context ++ ": " ++ cause.message
  | .rpc context cause => context ++ ": " ++ cause.message
  | .cluster context cause => context ++ ": " ++ cause.message
  | .pki cause => "pki error: " ++ cause.message
  | .file cause => "io error: " ++ cause.message
  | .serialization => "serialization error"
  | .internal text => "internal error: " ++ text

/-- The words for what caused an error, where the cause is an error of its own. -/
def cause? : Error → Option String
  | .connection _ cause => some cause.message
  | .rpc _ cause => some cause.message
  | .cluster _ cause => some cause.message
  | .pki cause => some cause.message
  | .file cause => some cause.message
  | _ => none

/-- The error for the status that a node gave to a call. Three codes are categories of their own;
any other is kept with its text. -/
def ofStatus (context : String) (status : RpcStatus) : Error :=
  match status.code with
  | .notFound => .notFound (.byNode context status.text)
  | .failedPrecondition => .failedPrecondition (.byNode context status.text)
  | .deadlineExceeded => .deadlineExceeded (.byNode context status.text)
  | _ => .rpc context status

/-- Whether what was addressed does not exist. -/
def isNotFound : Error → Bool
  | .notFound _ => true
  | _ => false

/-- Whether the present state does not allow the operation. -/
def isFailedPrecondition : Error → Bool
  | .failedPrecondition _ => true
  | _ => false

/-- A failed check, as an error. -/
def ofCheck {α : Type} (checked : Except Violation α) : Except Error α :=
  checked.mapError fun violation => .validation (.violation violation)

end Error

/-- Refuses a command in a state that does not allow it. -/
def Command.check (command : Command) (status : Status) : Except Error Unit :=
  if command.allowed status then .ok ()
  else .error (.failedPrecondition (.command command status))

end EdgeFleet
