import EdgeFleet.Orchestration.Program

/-!
# A cluster

The objects of a cluster by name, and how it carries out requests: creating refuses a name that is
taken, applying adds or replaces, and deleting tells whether there was anything. A request that
fails changes nothing.
-/

namespace EdgeFleet.Cluster

/-- The objects of a cluster, each under its name. -/
structure Store where
  /-- How many machines carry the ID of an edge node. -/
  machines : String → Nat
  deployments : List (String × Deployment)
  policies : List (String × NetworkPolicy)

namespace Store

variable {α : Type}

/-- The object with a name. -/
def lookup (name : String) (objects : List (String × α)) : Option α :=
  (objects.find? (·.1 == name)).map (·.2)

/-- The objects without the one with a name. -/
def without (name : String) (objects : List (String × α)) : List (String × α) :=
  objects.filter (·.1 != name)

/-- The objects with one put in under a name, in place of any other. -/
def put (name : String) (object : α) (objects : List (String × α)) : List (String × α) :=
  (name, object) :: without name objects

/-- The deployment with a name. -/
def deployment? (store : Store) (name : String) : Option Deployment :=
  lookup name store.deployments

/-- The network policy with a name. -/
def policy? (store : Store) (name : String) : Option NetworkPolicy :=
  lookup name store.policies

/-- The cluster with a deployment put in under a name. -/
def putDeployment (store : Store) (name : String) (deployment : Deployment) : Store :=
  { store with deployments := put name deployment store.deployments }

/-- The cluster with a network policy put in under a name. -/
def putPolicy (store : Store) (name : String) (policy : NetworkPolicy) : Store :=
  { store with policies := put name policy store.policies }

/-- The name of an object. -/
def nameOf (metadata : Metadata) : String :=
  metadata.name.getD ""

/-- Carries out a request. -/
def perform (store : Store) : (request : Request) → Except Error request.Answer × Store
  | .countNodes nodeId => (.ok (store.machines nodeId), store)
  | .createDeployment deployment =>
    let name := nameOf deployment.metadata
    match store.deployment? name with
    | some _ => (.error (.failedPrecondition (.deploymentExists name)), store)
    | none => (.ok (), store.putDeployment name deployment)
  | .applyDeployment deployment =>
    (.ok (), store.putDeployment (nameOf deployment.metadata) deployment)
  | .getDeployment name => (.ok (store.deployment? name), store)
  | .scaleDeployment name replicas =>
    match store.deployment? name with
    | some deployment => (.ok (), store.putDeployment name (deployment.scaled replicas))
    | none => (.error (.notFound (.deployment name)), store)
  | .deleteDeployment name =>
    (.ok (store.deployment? name).isSome,
      { store with deployments := without name store.deployments })
  | .applyNetworkPolicy policy => (.ok (), store.putPolicy (nameOf policy.metadata) policy)
  | .deleteNetworkPolicy name =>
    (.ok (store.policy? name).isSome, { store with policies := without name store.policies })

end Store

end EdgeFleet.Cluster
