import EdgeFleet.Orchestration.Backend

/-!
# The controller

Every operation that can be asked for, with the check of what is given before anything is called,
and the name that the operation goes by when it runs out of time. Workloads and their policies go to
the backend that the mode picks; names and interfaces always go to the node.
-/

namespace EdgeFleet

/-- A program under the name of the operation that it carries out. -/
structure Operation (α : Type) where
  name : String
  program : Program α

namespace Operation

variable {α β σ : Type}

/-- Carries an operation out. -/
def run (world : World σ) (operation : Operation α) (state : σ) : Except Error α × σ :=
  operation.program.run world operation.name state

/-- The operation with its result taken further. -/
def map (f : α → β) (operation : Operation α) : Operation β :=
  ⟨operation.name, f <$> operation.program⟩

end Operation

/-- A controller: its mode, and how it reaches nodes and carries out what is asked for. -/
structure Controller where
  mode : Mode
  broker : Broker
  backend : Backend

namespace Controller

/-- How workloads are kept in the cluster, by the settings. -/
def placing (settings : Settings) (broker : Broker) (policies : Cluster.PolicyRoute) :
    Cluster.Placing :=
  ⟨broker.directory, settings.namespaceName, settings.pullPolicy, policies⟩

/-- The backend of a mode. -/
def backendOf (settings : Settings) (broker : Broker) : Mode → Backend
  | .native => Native.backend broker
  | .kubernetes => (placing settings broker (.node broker)).backend
  | .kubernetesOvn => (placing settings broker .networkPolicy).backend

/-- The controller that settings ask for. Two of the modes need a cluster. -/
def ofSettings (settings : Settings) (broker : Broker) (hasCluster : Bool) :
    Except Error Controller :=
  if settings.mode.usesCluster && !hasCluster then
    .error (.validation (.noCluster settings.mode))
  else .ok ⟨settings.mode, broker, backendOf settings broker settings.mode⟩

/-- The ID of a workload must not be empty. -/
def checkRef (ref : WorkloadRef) : Except Error Unit :=
  if ref.id.isEmpty then .error (.validation (.emptyId ref.family)) else .ok ()

/-- A policy must be of the kind that the mode takes. -/
def checkKind (controller : Controller) (payload : PolicyPayload) : Except Error Unit :=
  if payload.kind = controller.mode.policyKind then .ok ()
  else .error (.validation (.policyKind payload.kind controller.mode))

/-- Deploys a workload without starting it. -/
def deploy (controller : Controller) (nodeId : String) (workload : Workload) :
    Operation Status where
  name := "deploy"
  program := do
    Error.ofCheck workload.check
    controller.backend.deploy nodeId workload
    return .deployed

/-- Replaces the definition of a deployed workload. -/
def redeploy (controller : Controller) (nodeId : String) (workload : Workload) :
    Operation Unit where
  name := "redeploy"
  program := do
    Error.ofCheck workload.check
    controller.backend.redeploy nodeId workload

/-- Carries out a command, and tells the state that it leads to. -/
def command (controller : Controller) (nodeId : String) (ref : WorkloadRef) (command : Command) :
    Operation Status where
  name := command.name
  program := do
    checkRef ref
    controller.backend.command nodeId ref command
    return command.target

/-- The status of a workload. -/
def status (controller : Controller) (nodeId : String) (ref : WorkloadRef) : Operation Status where
  name := "get status"
  program := do
    checkRef ref
    controller.backend.status nodeId ref

/-- Removes a workload and its policy. -/
def undeploy (controller : Controller) (nodeId : String) (ref : WorkloadRef) : Operation Unit where
  name := "undeploy"
  program := do
    checkRef ref
    controller.backend.undeploy nodeId ref

/-- Replaces the policy of a workload. -/
def setPolicy (controller : Controller) (nodeId : String) (ref : WorkloadRef)
    (payload : PolicyPayload) : Operation Unit where
  name := "set policy"
  program := do
    checkRef ref
    controller.checkKind payload
    Error.ofCheck payload.check
    controller.backend.setPolicy nodeId ref payload

/-- Removes the policy of a workload. -/
def deletePolicy (controller : Controller) (nodeId : String) (ref : WorkloadRef) :
    Operation Unit where
  name := "delete policy"
  program := do
    checkRef ref
    controller.backend.deletePolicy nodeId ref

/-- Interfaces have policies only in the modes in which nodes enforce policies. -/
def checkInterfacePolicies (controller : Controller) : Except Error Unit :=
  if controller.mode = .kubernetesOvn then .error (.failedPrecondition .interfacePolicies)
  else .ok ()

/-- Replaces the policy of an interface, or clears it. -/
def pushInterfacePolicy (controller : Controller) (nodeId interface : String)
    (policy : Option TrafficPolicy) : Program Unit := do
  controller.checkInterfacePolicies
  let message ← (Agent.Policy.ofTraffic? interface policy : Except Error _)
  controller.broker.send nodeId s!"set policy of interface {interface} on node {nodeId}"
    (.setInterfacePolicy message)

/-- Replaces the policy of an interface. -/
def setInterfacePolicy (controller : Controller) (nodeId interface : String)
    (policy : TrafficPolicy) : Operation Unit where
  name := "set interface policy"
  program := controller.pushInterfacePolicy nodeId interface (some policy)

/-- Clears the policy of an interface. -/
def deleteInterfacePolicy (controller : Controller) (nodeId interface : String) :
    Operation Unit where
  name := "delete interface policy"
  program := controller.pushInterfacePolicy nodeId interface none

/-- An alias that is pushed with a configuration must pass its check and belong to it. -/
def checkAlias (config : DnsConfig) (entry : DnsAlias) : Except Error Unit := do
  Error.ofCheck entry.check
  if entry.configId != config.id then
    throw (.validation (.aliasForeign entry.id entry.configId config.id))

/-- The records that are pushed for a configuration: those of its aliases, then its own. -/
def pushedRecords (config : DnsConfig) (aliases : List DnsAlias) :
    Except Error (List DnsRecord) := do
  aliases.forM (checkAlias config)
  return aliases.map DnsAlias.record ++ config.records

end Controller

/-- What is done with a DNS configuration. -/
inductive DnsChange where
  | apply
  | remove
  deriving Repr, DecidableEq

namespace DnsChange

/-- The name of the operation. -/
def operation : DnsChange → String
  | .apply => "apply dns config"
  | .remove => "remove dns config"

/-- What is done with the parts of a configuration. -/
def verb : DnsChange → String
  | .apply => "set"
  | .remove => "delete"

/-- The request for a record. -/
def recordRequest (change : DnsChange) (record : DnsRecord) : Agent.Request :=
  match change with
  | .apply => .setRecord record.name record.ips
  | .remove => .deleteRecord record.name record.ips

/-- The request for the forwarders. -/
def forwardersRequest (change : DnsChange) (addresses : List String) : Agent.Request :=
  match change with
  | .apply => .setForwarders addresses
  | .remove => .deleteForwarders addresses

/-- Sends records in order over the present connection. -/
def sendRecords (change : DnsChange) (nodeId : String) : List DnsRecord → Program Unit
  | [] => return ()
  | record :: rest => do
    let _ ← Program.make (.agent nodeId
      s!"{change.verb} DNS A record {record.name} on node {nodeId}" (change.recordRequest record))
    change.sendRecords nodeId rest

/-- Sends the forwarders, if there are any, over the present connection. -/
def sendForwarders (change : DnsChange) (nodeId : String) (config : DnsConfig) :
    Program Unit :=
  if config.forwarders.isEmpty then return ()
  else do
    let _ ← Program.make (.agent nodeId s!"{change.verb} DNS forwarders on node {nodeId}"
      (change.forwardersRequest config.forwarderIps))
    return ()

end DnsChange

namespace Controller

/-- Applies or removes a configuration: all records and then the forwarders, over one connection.
What is applied must pass its check. -/
def changeDns (controller : Controller) (change : DnsChange) (nodeId : String)
    (config : DnsConfig) (aliases : List DnsAlias) : Operation Unit where
  name := change.operation
  program := do
    if change = .apply then Error.ofCheck config.check
    let records ← (pushedRecords config aliases : Except Error _)
    controller.broker.connect nodeId .ela
    change.sendRecords nodeId records
    change.sendForwarders nodeId config

/-- Applies a DNS configuration. -/
def applyDns (controller : Controller) : String → DnsConfig → List DnsAlias → Operation Unit :=
  controller.changeDns .apply

/-- Removes a DNS configuration. -/
def removeDns (controller : Controller) : String → DnsConfig → List DnsAlias → Operation Unit :=
  controller.changeDns .remove

/-- All interfaces of a node. -/
def interfaces (controller : Controller) (nodeId : String) : Operation (List Agent.Interface) where
  name := "get interfaces"
  program := controller.broker.send nodeId s!"get interfaces of node {nodeId}" .interfaces

/-- One interface of a node. -/
def interface (controller : Controller) (nodeId id : String) : Operation Agent.Interface where
  name := "get interface"
  program := controller.broker.send nodeId s!"get interface {id} of node {nodeId}" (.interface id)

/-- Updates one interface of a node. -/
def updateInterface (controller : Controller) (nodeId : String) (interface : Agent.Interface) :
    Operation Unit where
  name := "update interface"
  program := controller.broker.send nodeId s!"update interface {interface.id} of node {nodeId}"
    (.updateInterface interface)

/-- Updates several interfaces of a node with one request. -/
def updateInterfaces (controller : Controller) (nodeId : String)
    (interfaces : List Agent.Interface) : Operation Unit where
  name := "bulk update interfaces"
  program := controller.broker.send nodeId s!"bulk update interfaces of node {nodeId}"
    (.updateInterfaces interfaces)

/-- Makes the host of a node known for later connections. -/
def register (controller : Controller) (nodeId : String) : Operation Unit where
  name := "register"
  program := controller.broker.register nodeId

end Controller

end EdgeFleet
