/-!
# Surfaces of a node

A node offers two groups of services on two ports: one for workloads, one for everything that the
workloads run on.
-/

namespace EdgeFleet.Agent

/-- A group of services of a node: `eva` for workloads, `ela` for policies, names and interfaces. -/
inductive Surface where
  | eva
  | ela
  deriving Repr, DecidableEq, Inhabited

namespace Surface

/-- The name of a surface. -/
def name : Surface → String
  | .eva => "EVA"
  | .ela => "ELA"

/-- The port of a surface unless settings say otherwise. -/
def defaultPort : Surface → UInt16
  | .eva => 42102
  | .ela => 42101

end Surface

end EdgeFleet.Agent
