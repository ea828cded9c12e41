import EdgeFleet.Inventory
import EdgeFleet.Orchestration.Program

/-!
# Carrying out operations on workloads

Two ways to carry out what is asked for a workload. `Native` hands it to the node, one request over
one connection each. `Cluster` keeps a deployment for the workload: deploying creates it with no
copy, starting and stopping set the number of copies, and policies go where `policies` says.
-/

namespace EdgeFleet

/-- What is asked for a workload on a node. What is given has been checked. -/
structure Backend where
  deploy : String → Workload → Program Unit
  redeploy : String → Workload → Program Unit
  command : String → WorkloadRef → Command → Program Unit
  status : String → WorkloadRef → Program Status
  undeploy : String → WorkloadRef → Program Unit
  setPolicy : String → WorkloadRef → PolicyPayload → Program Unit
  deletePolicy : String → WorkloadRef → Program Unit

namespace Broker

/-- Makes the host of a node known for later connections. -/
def register (broker : Broker) (nodeId : String) : Program Unit := do
  let host ← broker.resolve nodeId
  Program.make (.register host)

/-- Connects to a surface of a node. -/
def connect (broker : Broker) (nodeId : String) (surface : Agent.Surface) : Program Unit := do
  let route ← broker.route nodeId surface
  Program.make (.dial nodeId route)

/-- Sends one request over a connection of its own. -/
def send (broker : Broker) (nodeId context : String) (request : Agent.Request) :
    Program request.Answer := do
  broker.connect nodeId request.surface
  Program.make (.agent nodeId context request)

end Broker

namespace Native

/-- Replaces the policy that a node enforces for a workload, or clears it. -/
def pushPolicy (broker : Broker) (nodeId : String) (ref : WorkloadRef)
    (policy : Option TrafficPolicy) : Program Unit := do
  let message ← (Agent.Policy.ofTraffic? ref.id policy : Except Error _)
  broker.send nodeId s!"set policy of {ref.name} on node {nodeId}" (.setPolicy message)

/-- Replaces the policy of a workload; a node takes native policies only. -/
def setPolicy (broker : Broker) (nodeId : String) (ref : WorkloadRef) :
    PolicyPayload → Program Unit
  | .native policy => pushPolicy broker nodeId ref (some policy)
  | .cluster _ => .fail (.validation .notForNode)

/-- Asks a node for the status of a workload. -/
def status (broker : Broker) (nodeId : String) (ref : WorkloadRef) : Program Status := do
  let number ← broker.send nodeId s!"get status of {ref.name} on node {nodeId}"
    (.status ref.family ref.id)
  return Status.ofNumber number

/-- Hands everything to the node. The node drops the policy of a workload together with it. -/
def backend (broker : Broker) : Backend where
  deploy nodeId workload :=
    broker.send nodeId s!"deploy {workload.ref.name} on node {nodeId}"
      (.deploy workload.packaging (.ofWorkload workload))
  redeploy nodeId workload :=
    broker.send nodeId s!"redeploy {workload.ref.name} on node {nodeId}"
      (.redeploy (.ofWorkload workload))
  command nodeId ref command :=
    broker.send nodeId s!"{command.name} {ref.name} on node {nodeId}"
      (.command ref.family command ref.id)
  status := status broker
  undeploy nodeId ref :=
    broker.send nodeId s!"undeploy {ref.name} on node {nodeId}" (.undeploy ref.family ref.id)
  setPolicy := setPolicy broker
  deletePolicy nodeId ref := pushPolicy broker nodeId ref none

end Native

namespace Cluster

/-- Who enforces the policies of workloads that run in the cluster. -/
inductive PolicyRoute where
  | node (broker : Broker)
  | networkPolicy

/-- How workloads are kept in the cluster. -/
structure Placing where
  directory : Directory
  namespaceName : String
  pullPolicy : String
  policies : PolicyRoute

namespace Placing

/-- The serial number of a node. -/
def serial (placing : Placing) (nodeId : String) : Except Error String := do
  match ← placing.directory.node nodeId with
  | some node => return node.serial
  | none => throw (.notFound (.node nodeId))

/-- The deployment of a workload on a node. -/
def build (placing : Placing) (nodeId serial : String) (workload : Workload) (replicas : Int) :
    Except Error Deployment :=
  Deployment.ofWorkload placing.namespaceName placing.pullPolicy nodeId serial workload replicas

/-- Fetches the deployment of a workload, which must exist. -/
def existing (name : String) (ref : WorkloadRef) : Program Deployment := do
  match ← Program.ask (.getDeployment name) with
  | some (deployment : Deployment) => return deployment
  | none => .fail (.notFound (.deploymentOf name ref))

/-- Creates the deployment of a workload, without copies, if exactly one machine of the cluster is
the node. -/
def deploy (placing : Placing) (nodeId : String) (workload : Workload) : Program Unit := do
  let serial ← placing.serial nodeId
  let deployment ← placing.build nodeId serial workload 0
  let count : Nat ← Program.ask (.countNodes nodeId)
  match count with
  | 1 => Program.ask (.createDeployment deployment)
  | 0 => .fail (.notFound (.clusterNode nodeId))
  | count => .fail (.failedPrecondition (.clusterNodes count nodeId))

/-- Replaces the deployment of a workload, with the number of copies that it asks for now. -/
def redeploy (placing : Placing) (nodeId : String) (workload : Workload) : Program Unit := do
  let serial ← placing.serial nodeId
  let current ← existing (deploymentName workload.id serial) workload.ref
  let deployment ← placing.build nodeId serial workload current.replicas
  Program.ask (.applyDeployment deployment)

/-- Sets the number of copies that a command leads to; a restart first removes the running one. -/
def scale (name : String) : Command → Program Unit
  | .start => Program.ask (.scaleDeployment name 1)
  | .stop => Program.ask (.scaleDeployment name 0)
  | .restart => do
    let _ ← Program.ask (.scaleDeployment name 0)
    Program.ask (.scaleDeployment name 1)

/-- Carries out a command that the present number of copies allows. -/
def command (placing : Placing) (nodeId : String) (ref : WorkloadRef) (command : Command) :
    Program Unit := do
  let serial ← placing.serial nodeId
  let name := deploymentName ref.id serial
  let deployment ← existing name ref
  command.check deployment.runState
  scale name command

/-- The status of a workload by the conditions of its deployment. -/
def status (placing : Placing) (nodeId : String) (ref : WorkloadRef) : Program Status := do
  let serial ← placing.serial nodeId
  let deployment ← existing (deploymentName ref.id serial) ref
  return Status.ofConditions deployment.conditions

/-- Replaces the policy of a workload where its policies go. -/
def setPolicy (placing : Placing) (nodeId : String) (ref : WorkloadRef) (payload : PolicyPayload) :
    Program Unit :=
  match placing.policies, payload with
  | .node broker, payload => Native.setPolicy broker nodeId ref payload
  | .networkPolicy, .cluster policy => do
    let serial ← placing.serial nodeId
    let object ← NetworkPolicy.ofPolicy policy (networkPolicyName ref.id serial)
      placing.namespaceName [(podLabel, appLabel ref.id serial)]
    Program.ask (.applyNetworkPolicy object)
  | .networkPolicy, .native _ => .fail (.validation .notForCluster)

/-- Removes the policy of a workload where its policies go. -/
def deletePolicy (placing : Placing) (nodeId : String) (ref : WorkloadRef) : Program Unit :=
  match placing.policies with
  | .node broker => Native.pushPolicy broker nodeId ref none
  | .networkPolicy => do
    let serial ← placing.serial nodeId
    let _ ← Program.ask (.deleteNetworkPolicy (networkPolicyName ref.id serial))
    return ()

/-- Removes the deployment of a workload, which must exist, and then its policy. -/
def undeploy (placing : Placing) (nodeId : String) (ref : WorkloadRef) : Program Unit := do
  let serial ← placing.serial nodeId
  let name := deploymentName ref.id serial
  let existed : Bool ← Program.ask (.deleteDeployment name)
  if existed then placing.deletePolicy nodeId ref
  else .fail (.notFound (.deploymentOf name ref))

/-- Keeps workloads in the cluster. -/
def backend (placing : Placing) : Backend where
  deploy := placing.deploy
  redeploy := placing.redeploy
  command := placing.command
  status := placing.status
  undeploy := placing.undeploy
  setPolicy := placing.setPolicy
  deletePolicy := placing.deletePolicy

end Placing

end Cluster

end EdgeFleet
