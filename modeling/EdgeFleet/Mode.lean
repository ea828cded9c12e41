/-!
# Orchestration modes

Where workloads run and who enforces their traffic policies. The mode is fixed when a controller
starts.
-/

namespace EdgeFleet

/-- `native` hands workloads and policies to the node; `kubernetes` runs workloads in the cluster
and leaves policies to the node; `kubernetesOvn` hands both to the cluster. -/
inductive Mode where
  | native
  | kubernetes
  | kubernetesOvn
  deriving Repr, DecidableEq, Inhabited

namespace Mode

/-- All modes. -/
def all : List Mode := [.native, .kubernetes, .kubernetesOvn]

/-- The name of a mode in settings. -/
def name : Mode → String
  | .native => "native"
  | .kubernetes => "kubernetes"
  | .kubernetesOvn => "kubernetes-ovn"

/-- The name of a mode in messages. -/
def title : Mode → String
  | .native => "Native"
  | .kubernetes => "Kubernetes"
  | .kubernetesOvn => "KubernetesOvn"

/-- The mode with a given name. -/
def ofName? (name : String) : Option Mode :=
  all.find? (·.name == name)

/-- Whether workloads run in the cluster. -/
def usesCluster : Mode → Bool
  | .native => false
  | .kubernetes | .kubernetesOvn => true

end Mode

/-- Who can enforce a traffic policy. -/
inductive PolicyKind where
  | native
  | cluster
  deriving Repr, DecidableEq, Inhabited

/-- The name of a policy kind in messages. -/
def PolicyKind.name : PolicyKind → String
  | .native => "native"
  | .cluster => "kube-ovn"

/-- The kind of policies that workloads take in a mode. -/
def Mode.policyKind : Mode → PolicyKind
  | .native | .kubernetes => .native
  | .kubernetesOvn => .cluster

end EdgeFleet
