/-!
# Names of cluster objects

Every object that the controller keeps in the cluster is named after a workload and the serial
number of the node that the workload is pinned to.
-/

namespace EdgeFleet.Cluster

/-- The name of the deployment of a workload on a node. -/
def deploymentName (workload serial : String) : String :=
  s!"deploy-{workload}-{serial}"

/-- The name of the container of a workload on a node. -/
def containerName (workload serial : String) : String :=
  s!"pod-{workload}-{serial}"

/-- The value of the label that selects the pods of a workload on a node. -/
def appLabel (workload serial : String) : String :=
  s!"app-{workload}-{serial}"

/-- The name of the network policy of a workload on a node. -/
def networkPolicyName (workload serial : String) : String :=
  s!"np-{workload}-{serial}"

/-- The label with the ID of an edge node, on machines of the cluster and on deployments. -/
def nodeLabel : String := "node-id"

/-- The label with the ID of a workload. -/
def workloadLabel : String := "app-id"

/-- The label that selects the pods of a workload. -/
def podLabel : String := "app"

end EdgeFleet.Cluster
