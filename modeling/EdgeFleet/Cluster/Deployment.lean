import EdgeFleet.Cluster.Condition
import EdgeFleet.Cluster.Naming
import EdgeFleet.Error

/-!
# Deployments

A deployment keeps a number of copies of a pod running. `Deployment.ofWorkload` builds the one for
a workload: it is pinned to the machine of its edge node, and everything in it that the cluster
does not let change depends on the workload's ID, the node and its serial number only.
-/

namespace EdgeFleet.Cluster

/-- A port that a container opens. -/
structure ContainerPort where
  port : Int
  protocol : Option String
  deriving Repr, DecidableEq, Inhabited

/-- A container of a pod, with the resources that it may use at most and the capabilities that it
has on top of the usual ones. -/
structure Container where
  name : String
  image : Option String
  pullPolicy : Option String
  ports : Option (List ContainerPort)
  limits : Option Labels
  capabilities : Option (List String)
  deriving Repr, DecidableEq, Inhabited

/-- What a pod runs, and the labels of the machines that it may run on. -/
structure PodSpec where
  containers : List Container
  machineLabels : Option Labels
  deriving Repr, DecidableEq, Inhabited

/-- The pods that a deployment makes. -/
structure PodTemplate where
  metadata : Option Metadata
  spec : Option PodSpec
  deriving Repr, DecidableEq, Inhabited

/-- What a deployment is to be. -/
structure DeploymentSpec where
  replicas : Option Int
  selector : LabelSelector
  /-- How running pods are exchanged for new ones. -/
  strategy : Option (Option String)
  template : PodTemplate
  deriving Repr, DecidableEq, Inhabited

/-- What the cluster has observed of a deployment. -/
structure DeploymentStatus where
  conditions : Option (List Condition)
  deriving Repr, DecidableEq, Inhabited

/-- A deployment. -/
structure Deployment where
  metadata : Metadata
  spec : Option DeploymentSpec
  status : Option DeploymentStatus
  deriving Repr, DecidableEq, Inhabited

namespace ContainerPort

/-- Reads a port. -/
def ofJson? (value : Json) : Option ContainerPort := do
  let value ← Object.open? value
  return {
    port := ← Object.withDefault value "containerPort" 0 Object.int32?
    protocol := ← Object.optional value "protocol" Json.text? }

/-- Writes a port. -/
def toJson (port : ContainerPort) : Json :=
  .compact [
    ("containerPort", some (.int port.port)),
    ("protocol", port.protocol.map .string)]

/-- The port of a container for an exposed port. Port numbers have a sign in the cluster, and two
protocols have no counterpart. -/
def ofExposed (exposed : ExposedPort) : Except Error ContainerPort :=
  let port (protocol : String) : ContainerPort := ⟨exposed.port.toInt32.toInt, some protocol⟩
  match exposed.protocol with
  | .tcp => .ok (port "TCP")
  | .udp => .ok (port "UDP")
  | .sctp => .ok (port "SCTP")
  | .icmp | .all => .error (.validation (.portProtocol exposed.protocol))

end ContainerPort

namespace Container

/-- Reads a container. -/
def ofJson? (value : Json) : Option Container := do
  let value ← Object.open? value
  let resources ← Object.optional value "resources" Object.open?
  let security ← Object.optional value "securityContext" Object.open?
  let capabilities ← (security.getD .null |> fun context =>
    Object.optional context "capabilities" Object.open?)
  return {
    name := ← Object.withDefault value "name" "" Json.text?
    image := ← Object.optional value "image" Json.text?
    pullPolicy := ← Object.optional value "imagePullPolicy" Json.text?
    ports := ← Object.optional value "ports" (Object.listOf? ContainerPort.ofJson?)
    limits := ← Object.optional (resources.getD .null) "limits" Object.labels?
    capabilities := ← Object.optional (capabilities.getD .null) "add"
      (Object.listOf? Json.text?) }

/-- Writes a container. -/
def toJson (container : Container) : Json :=
  .compact [
    ("image", container.image.map .string),
    ("imagePullPolicy", container.pullPolicy.map .string),
    ("name", some (.string container.name)),
    ("ports", container.ports.map (Json.ofList ContainerPort.toJson)),
    ("resources", container.limits.map fun limits =>
      .object [("limits", Object.ofLabels limits)]),
    ("securityContext", container.capabilities.map fun names =>
      .object [("capabilities", .object [("add", Json.strings names)])])]

end Container

namespace PodSpec

/-- Reads what a pod runs. -/
def ofJson? (value : Json) : Option PodSpec := do
  let value ← Object.open? value
  return {
    containers := ← Object.withDefault value "containers" [] (Object.listOf? Container.ofJson?)
    machineLabels := ← Object.optional value "nodeSelector" Object.labels? }

/-- Writes what a pod runs. -/
def toJson (spec : PodSpec) : Json :=
  .compact [
    ("containers", some (Json.ofList Container.toJson spec.containers)),
    ("nodeSelector", spec.machineLabels.map Object.ofLabels)]

end PodSpec

namespace PodTemplate

/-- Reads the pods of a deployment. -/
def ofJson? (value : Json) : Option PodTemplate := do
  let value ← Object.open? value
  return {
    metadata := ← Object.optional value "metadata" Metadata.ofJson?
    spec := ← Object.optional value "spec" PodSpec.ofJson? }

/-- Writes the pods of a deployment. -/
def toJson (template : PodTemplate) : Json :=
  .compact [
    ("metadata", template.metadata.map Metadata.toJson),
    ("spec", template.spec.map PodSpec.toJson)]

end PodTemplate

namespace DeploymentSpec

/-- Reads how running pods are exchanged. -/
def strategy? (value : Json) : Option (Option String) := do
  Object.optional (← Object.open? value) "type" Json.text?

/-- Reads what a deployment is to be. -/
def ofJson? (value : Json) : Option DeploymentSpec := do
  let value ← Object.open? value
  return {
    replicas := ← Object.optional value "replicas" Object.int32?
    selector := ← Object.withDefault value "selector" default LabelSelector.ofJson?
    strategy := ← Object.optional value "strategy" strategy?
    template := ← Object.withDefault value "template" default PodTemplate.ofJson? }

/-- Writes what a deployment is to be. -/
def toJson (spec : DeploymentSpec) : Json :=
  .compact [
    ("replicas", spec.replicas.map .int),
    ("selector", some spec.selector.toJson),
    ("strategy", spec.strategy.map fun kind => .compact [("type", kind.map .string)]),
    ("template", some spec.template.toJson)]

end DeploymentSpec

namespace DeploymentStatus

/-- Reads what the cluster has observed. -/
def ofJson? (value : Json) : Option DeploymentStatus := do
  let value ← Object.open? value
  return ⟨← Object.optional value "conditions" (Object.listOf? Condition.ofJson?)⟩

/-- Writes what the cluster has observed. -/
def toJson (status : DeploymentStatus) : Json :=
  .compact [("conditions", status.conditions.map (Json.ofList Condition.toJson))]

end DeploymentStatus

namespace Deployment

/-- Reads a deployment. -/
def ofJson? (value : Json) : Option Deployment := do
  let value ← Object.open? value
  Object.expect value "apiVersion" "apps/v1"
  Object.expect value "kind" "Deployment"
  return {
    metadata := ← Object.withDefault value "metadata" default Metadata.ofJson?
    spec := ← Object.optional value "spec" DeploymentSpec.ofJson?
    status := ← Object.optional value "status" DeploymentStatus.ofJson? }

/-- Writes a deployment. -/
def toJson (deployment : Deployment) : Json :=
  .compact [
    ("apiVersion", some (.string "apps/v1")),
    ("kind", some (.string "Deployment")),
    ("metadata", some deployment.metadata.toJson),
    ("spec", deployment.spec.map DeploymentSpec.toJson),
    ("status", deployment.status.map DeploymentStatus.toJson)]

/-- The number of copies that a deployment asks for, if it says so. -/
def replicas? (deployment : Deployment) : Option Int :=
  deployment.spec.bind (·.replicas)

/-- The number of copies that a deployment asks for; without a number, none. -/
def replicas (deployment : Deployment) : Int :=
  deployment.replicas?.getD 0

/-- Whether a workload is to run, by the number of copies. -/
def runState (deployment : Deployment) : Status :=
  if deployment.replicas > 0 then .running else .stopped

/-- The conditions of a deployment. -/
def conditions (deployment : Deployment) : List Condition :=
  (deployment.status.bind (·.conditions)).getD []

/-- The deployment with another number of copies. One that says nothing of what it is to be cannot
say how often. -/
def scaled (deployment : Deployment) (count : Int) : Deployment :=
  { deployment with
    spec := deployment.spec.map fun spec => { spec with replicas := some count } }

/-- The labels of the deployment of a workload and of its pods. -/
def labels (nodeId serial workload : String) : Labels := [
  (podLabel, appLabel workload serial),
  (workloadLabel, workload),
  (nodeLabel, nodeId)]

/-- The container that a workload runs in. It uses no more than the workload asks for, and may
configure the network. -/
def container (pullPolicy serial : String) (workload : Workload) (ports : List ContainerPort) :
    Container where
  name := containerName workload.id serial
  image := some workload.id
  pullPolicy := some pullPolicy
  ports := if ports.isEmpty then none else some ports
  limits := some [("cpu", toString workload.cores.toNat), ("memory", s!"{workload.memory.toNat}Mi")]
  capabilities := some ["NET_ADMIN"]

/-- The deployment of a workload on the edge node with the given ID and serial number. Virtual
machines, and ports of protocols that the cluster does not know, cannot be deployed. -/
def ofWorkload (namespaceName pullPolicy nodeId serial : String) (workload : Workload)
    (replicas : Int) : Except Error Deployment := do
  if workload.packaging = .vm then throw (.validation (.virtualMachine workload.ref))
  let ports ← workload.ports.mapM ContainerPort.ofExposed
  let labels := labels nodeId serial workload.id
  return {
    metadata := ⟨some (deploymentName workload.id serial), some namespaceName, some labels⟩
    spec := some {
      replicas := some replicas
      selector := ⟨some labels⟩
      strategy := some (some "Recreate")
      template := {
        metadata := some ⟨none, none, some labels⟩
        spec := some {
          containers := [container pullPolicy serial workload ports]
          machineLabels := some [(nodeLabel, nodeId)] } } }
    status := none }

end Deployment

end EdgeFleet.Cluster
