import EdgeFleet.Agent.Interface
import EdgeFleet.Agent.Policy
import EdgeFleet.Agent.Surface
import EdgeFleet.Agent.Workload
import EdgeFleet.Json.Basic
import EdgeFleet.Lifecycle

/-!
# Requests to a node

Every call that the controller makes to a node, with what the node answers it with. The surface,
the name of the method and the message that is sent follow from the request.
-/

namespace EdgeFleet.Agent

/-- A workload, as nodes take it. -/
inductive Definition where
  | app (message : AppMessage)
  | vnf (message : VnfMessage)
  deriving DecidableEq

namespace Definition

/-- The message for a workload. -/
def ofWorkload : Workload → Definition
  | .app a => .app (.ofApp a)
  | .vnf v => .vnf (.ofVnf v)

/-- The family of a workload. -/
def family : Definition → WorkloadClass
  | .app _ => .app
  | .vnf _ => .vnf

end Definition

/-- A call to a node. -/
inductive Request where
  | deploy (packaging : Packaging) (definition : Definition)
  | redeploy (definition : Definition)
  | command (family : WorkloadClass) (command : Command) (id : String)
  | status (family : WorkloadClass) (id : String)
  | undeploy (family : WorkloadClass) (id : String)
  | setPolicy (policy : Policy)
  | setInterfacePolicy (policy : Policy)
  | setRecord (name : String) (values : List String)
  | deleteRecord (name : String) (values : List String)
  | setForwarders (addresses : List String)
  | deleteForwarders (addresses : List String)
  | interfaces
  | interface (id : String)
  | updateInterface (interface : Interface)
  | updateInterfaces (interfaces : List Interface)
  deriving DecidableEq

namespace Request

/-- What a node answers a request with. -/
def Answer : Request → Type
  | .status _ _ => Int
  | .interfaces => List Interface
  | .interface _ => Interface
  | _ => Unit

/-- The surface that takes a request. -/
def surface : Request → Surface
  | .deploy _ _ | .redeploy _ | .command _ _ _ | .status _ _ | .undeploy _ _ => .eva
  | _ => .ela

/-- The service that deploys workloads of a family. -/
def deploymentService : WorkloadClass → String
  | .app => "eva.ApplicationDeploymentService"
  | .vnf => "eva.VnfDeploymentService"

/-- The service that runs workloads of a family. -/
def lifecycleService : WorkloadClass → String
  | .app => "eva.ApplicationLifecycleService"
  | .vnf => "eva.VnfLifecycleService"

/-- The name of the method of a command. -/
def commandMethod : Command → String
  | .start => "Start"
  | .stop => "Stop"
  | .restart => "Restart"

/-- The full name of the method that a request calls. -/
def method : Request → String
  | .deploy .container definition => deploymentService definition.family ++ "/DeployContainer"
  | .deploy .vm definition => deploymentService definition.family ++ "/DeployVm"
  | .redeploy definition => deploymentService definition.family ++ "/Redeploy"
  | .command family given _ => lifecycleService family ++ "/" ++ commandMethod given
  | .status family _ => deploymentService family ++ "/GetStatus"
  | .undeploy family _ => deploymentService family ++ "/Undeploy"
  | .setPolicy _ => "ela.ApplicationPolicyService/Set"
  | .setInterfacePolicy _ => "ela.InterfacePolicyService/Set"
  | .setRecord _ _ => "ela.DnsService/SetA"
  | .deleteRecord _ _ => "ela.DnsService/DeleteA"
  | .setForwarders _ => "ela.DnsService/SetForwarders"
  | .deleteForwarders _ => "ela.DnsService/DeleteForwarders"
  | .interfaces => "ela.InterfaceService/GetAll"
  | .interface _ => "ela.InterfaceService/Get"
  | .updateInterface _ => "ela.InterfaceService/Update"
  | .updateInterfaces _ => "ela.InterfaceService/BulkUpdate"

end Request

end EdgeFleet.Agent
