import EdgeFleet.Cluster.Http
import EdgeFleet.Document
import EdgeFleet.Json.Parser
import EdgeFleet.Orchestration.Program
import EdgeFleet.Text.Quoted

/-!
# Requests to a cluster over HTTP

Every request to a cluster is one exchange over HTTP. `Client.request` writes a request down and
`Client.answer` reads the response; `Client.perform` joins them over a service that may fail. A
response that says why the request failed is read with its own code, and otherwise kept as it is.
-/

namespace EdgeFleet.Cluster

/-- A client of the objects in one namespace. -/
structure Client where
  namespaceName : String
  deriving Repr, DecidableEq

namespace Client

/-- The name that changes are made under. -/
def manager : String := "edgectl"

/-- The path of the deployments. -/
def deployments (client : Client) : String :=
  s!"/apis/apps/v1/namespaces/{client.namespaceName}/deployments"

/-- The path of the network policies. -/
def policies (client : Client) : String :=
  s!"/apis/networking.k8s.io/v1/namespaces/{client.namespaceName}/networkpolicies"

/-- What is being tried with a request. -/
def context : Request → String
  | .countNodes nodeId => "list cluster nodes for " ++ nodeId
  | .createDeployment one => "create deployment " ++ one.metadata.name.getD ""
  | .applyDeployment one => "apply deployment " ++ one.metadata.name.getD ""
  | .getDeployment name => "get deployment " ++ name
  | .scaleDeployment name replicas => s!"scale deployment {name} to {replicas}"
  | .deleteDeployment name => "delete deployment " ++ name
  | .applyNetworkPolicy one => "apply network policy " ++ one.metadata.name.getD ""
  | .deleteNetworkPolicy name => "delete network policy " ++ name

/-- The text of a target with parameters. -/
def withParameters (path : String) (parameters : Uri.Form.Parameters) : String :=
  if parameters.isEmpty then path ++ "?" else path ++ "?&" ++ Uri.Form.encode parameters

/-- The path of an object. The name must not be empty. -/
def objectPath (path name : String) : Except ClusterFault String :=
  if name.isEmpty then .error .unbuildable else .ok (path ++ "/" ++ name)

/-- A request to a target that must be well written. -/
def build (method : Http.Method) (target : String) (content : Option Http.Content) :
    Except ClusterFault Http.Request :=
  match Uri.Target.parse? target with
  | none => .error .unbuildable
  | some target => .ok ⟨method, target, content⟩

/-- A request that creates or replaces an object. -/
def applying (path name : String) (value : Json) : Except ClusterFault Http.Request := do
  let target := withParameters (← objectPath path name)
    [("force", "true"), ("fieldManager", manager)]
  build .patch target (some ⟨"application/apply-patch+yaml", value⟩)

/-- A request that deletes an object, and what depends on it first or afterwards. -/
def deleting (path name propagation : String) : Except ClusterFault Http.Request := do
  let target := withParameters (← objectPath path name) []
  build .delete target
    (some ⟨"application/json", .object [("propagationPolicy", .string propagation)]⟩)

/-- A request over HTTP. -/
def encode (client : Client) : Request → Except ClusterFault Http.Request
  | .countNodes nodeId =>
    build .get (withParameters "/api/v1/nodes" [("labelSelector", nodeLabel ++ "=" ++ nodeId)]) none
  | .createDeployment one =>
    build .post (withParameters client.deployments []) (some ⟨"application/json", one.toJson⟩)
  | .applyDeployment one =>
    applying client.deployments (one.metadata.name.getD "") one.toJson
  | .getDeployment name => do
    build .get (← objectPath client.deployments name) none
  | .scaleDeployment name replicas => do
    let target := withParameters ((← objectPath client.deployments name) ++ "/scale") []
    let change := Json.object [("spec", .object [("replicas", .int replicas)])]
    build .patch target (some ⟨"application/merge-patch+json", change⟩)
  | .deleteDeployment name => deleting client.deployments name "Foreground"
  | .applyNetworkPolicy one =>
    applying client.policies (one.metadata.name.getD "") one.toJson
  | .deleteNetworkPolicy name => deleting client.policies name "Background"

/-- An object can be created or applied only if it says its name. -/
def checkName : Request → Except Error Unit
  | .createDeployment one | .applyDeployment one => named one.metadata
  | .applyNetworkPolicy one => named one.metadata
  | _ => .ok ()
where
  /-- Metadata must hold a name. -/
  named (metadata : Metadata) : Except Error Unit :=
    if metadata.name.isSome then .ok () else .error (.internal "object has no name")

/-- Writes a request down. -/
def request (client : Client) (asked : Request) : Except Error Http.Request := do
  checkName asked
  (client.encode asked).mapError (.cluster (context asked))

/-- A number of 16 bits. -/
def code? (document : Document) : Option Nat :=
  document.natBelow? 0x10000

/-- Reads what a cluster says of a request that failed. -/
def status? (text : String) : Option ClusterStatus := do
  let fields ← Fields.ofDocument? ["status", "message", "reason", "code"]
    (.ofJson (← Json.parse? text))
  return {
    status := ← fields.required "status" Document.text?
    message := ← fields.withDefault "message" "" Document.text?
    reason := ← fields.withDefault "reason" "" Document.text?
    code := ← fields.required "code" code? }

/-- What a cluster says of a request that failed in the text of a response, or what is known without
its words. -/
def refusal (response : Http.Response) (text : String) : ClusterStatus :=
  (status? text).getD {
    status := response.statusLine
    message := Text.quoted text
    reason := "Failed to parse error data"
    code := response.status }

/-- Reads the nodes of a list and counts them. -/
def count? (value : Json) : Option Nat := do
  let value ← Object.open? value
  let _ ← Object.open? ((value.get? "metadata").getD (.object []))
  match ← value.get? "items" with
  | .null => return 0
  | items => return (← Object.listOf? node? items).length
where
  /-- Reads a node as far as it counts. -/
  node? (value : Json) : Option Unit := do
    let value ← Object.open? value
    Object.expect value "apiVersion" "v1"
    Object.expect value "kind" "Node"
    let _ ← Object.withDefault value "metadata" default Metadata.ofJson?
    return ()

/-- Reads how often a deployment is to run. -/
def scale? (value : Json) : Option Unit := do
  let value ← Object.open? value
  Object.expect value "apiVersion" "autoscaling/v1"
  Object.expect value "kind" "Scale"
  let _ ← Object.withDefault value "metadata" default Metadata.ofJson?
  let replicas (part : Json) : Option Unit := do
    let part ← Object.open? part
    let _ ← Object.optional part "replicas" Object.int32?
    return ()
  let _ ← Object.optional value "spec" replicas
  let _ ← Object.optional value "status" replicas
  return ()

/-- Reads the answer to a deletion: a status, or the object as it is being deleted. -/
def deleted? {α : Type} (object? : Json → Option α) (value : Json) : Option Bool := do
  if value.get? "kind" == some (.string "Status") then
    let fields ← Fields.ofDocument? ["status", "code", "message", "reason", "details"]
      (.ofJson value)
    let summary ← fields.trailing "status" Document.text?
    if summary.any fun summary => summary != "Success" && summary != "Failure" then none
    let _ ← fields.withDefault "code" 0 code?
    let _ ← fields.withDefault "message" "" Document.text?
    let _ ← fields.withDefault "reason" "" Document.text?
    return true
  else
    let _ ← object? value
    return true

/-- Reads the object that a request is answered with. -/
def object? : (asked : Request) → Json → Option asked.Answer
  | .countNodes _, value => count? value
  | .createDeployment _, value | .applyDeployment _, value =>
    (Deployment.ofJson? value).map fun _ => ()
  | .getDeployment _, value => (Deployment.ofJson? value).map some
  | .scaleDeployment _ _, value => scale? value
  | .deleteDeployment _, value => deleted? Deployment.ofJson? value
  | .applyNetworkPolicy _, value => (NetworkPolicy.ofJson? value).map fun _ => ()
  | .deleteNetworkPolicy _, value => deleted? NetworkPolicy.ofJson? value

/-- What a request comes to that the cluster refused: some refusals are answers. -/
def refused (asked : Request) (status : ClusterStatus) : Except Error asked.Answer :=
  let failed : Error := .cluster (context asked) (.refused status)
  match asked with
  | .createDeployment one =>
    if status.code = 409 then
      .error (.failedPrecondition (.deploymentExists (one.metadata.name.getD "")))
    else .error failed
  | .getDeployment _ => if status.reason = "NotFound" then .ok none else .error failed
  | .deleteDeployment _ | .deleteNetworkPolicy _ =>
    if status.code = 404 then .ok false else .error failed
  | .countNodes _ | .applyDeployment _ | .scaleDeployment _ _ | .applyNetworkPolicy _ =>
    .error failed

/-- Reads a response. It must be text even if it says that the request failed. -/
def answer (asked : Request) (response : Http.Response) : Except Error asked.Answer :=
  match response.body.text? with
  | none => .error (.cluster (context asked) .notText)
  | some text =>
    if response.isFailure then refused asked (refusal response text)
    else
      match (Json.parse? text).bind (object? asked) with
      | some answer => .ok answer
      | none => .error (.cluster (context asked) .undecodable)

/-- Carries a request out over a service, which may fail to respond. -/
def perform (client : Client) (service : Http.Request → Option Http.Response) (asked : Request) :
    Except Error asked.Answer := do
  match service (← client.request asked) with
  | none => .error (.cluster (context asked) .service)
  | some response => answer asked response

end Client

end EdgeFleet.Cluster
