import EdgeFleet.Lifecycle
import EdgeFleet.Record.Workload

/-!
# Nodes and what is placed on them

An edge node, the address that it registered for being dialled back, and the associations of
workloads with nodes.
-/

namespace EdgeFleet

/-- An edge node. Its ID is also the name that its TLS certificate must carry, and its serial
number goes into the names of its cluster objects. -/
structure Node where
  id : String
  name : String
  location : String
  serial : String
  deriving Repr, DecidableEq, Inhabited

namespace Node

/-- Checks a node. -/
def check (node : Node) : Check := do
  Check.uuid "id" node.id
  Check.nonEmpty "name" node.name
  Check.nonEmpty "location" node.location
  Check.nonEmpty "serial" node.serial

/-- Reads a node. -/
def ofDocument? (document : Document) : Option Node := do
  let fields ← Fields.ofDocument? ["id", "name", "location", "serial"] document
  return {
    id := ← fields.required "id" Document.text?
    name := ← fields.required "name" Document.text?
    location := ← fields.required "location" Document.text?
    serial := ← fields.required "serial" Document.text? }

/-- The fields of a node, in declared order. -/
def toFields (node : Node) : List (String × Option Document) := [
  ("id", some (.text node.id)),
  ("name", some (.text node.name)),
  ("location", some (.text node.location)),
  ("serial", some (.text node.serial))]

end Node

/-- The address, with or without a port, under which a node can be reached. -/
structure NodeTarget where
  id : String
  nodeId : String
  target : String
  deriving Repr, DecidableEq, Inhabited

namespace NodeTarget

/-- Checks a registered address. -/
def check (target : NodeTarget) : Check := do
  Check.uuid "id" target.id
  Check.uuid "node_id" target.nodeId
  Check.nonEmpty "grpc_target" target.target

/-- Reads a registered address. -/
def ofDocument? (document : Document) : Option NodeTarget := do
  let fields ← Fields.ofDocument? ["id", "node_id", "grpc_target"] document
  return {
    id := ← fields.required "id" Document.text?
    nodeId := ← fields.required "node_id" Document.text?
    target := ← fields.required "grpc_target" Document.text? }

/-- The fields of a registered address, in declared order. -/
def toFields (target : NodeTarget) : List (String × Option Document) := [
  ("id", some (.text target.id)),
  ("node_id", some (.text target.nodeId)),
  ("grpc_target", some (.text target.target))]

end NodeTarget

/-- A workload on a node, with the command that is to be run on it, if there is one. -/
structure Placement where
  id : String
  nodeId : String
  workloadId : String
  pending : Option String
  deriving Repr, DecidableEq, Inhabited

namespace Placement

/-- The field that holds the ID of a placed workload. -/
def workloadField : WorkloadClass → String
  | .app => "app_id"
  | .vnf => "vnf_id"

/-- The pending command; one that is not given reads like an empty one. -/
def command (placement : Placement) : Except Violation Command :=
  Command.parse (placement.pending.getD "")

/-- Checks the placement of a workload of the given family. -/
def check (family : WorkloadClass) (placement : Placement) : Check := do
  Check.uuid "id" placement.id
  Check.uuid "node_id" placement.nodeId
  Check.uuid (workloadField family) placement.workloadId
  match placement.pending with
  | none => .ok ()
  | some text => (Command.parse text).map fun _ => ()

/-- Reads the placement of a workload of the given family. -/
def ofDocument? (family : WorkloadClass) (document : Document) : Option Placement := do
  let fields ← Fields.ofDocument? ["id", "node_id", workloadField family, "cmd"] document
  return {
    id := ← fields.required "id" Document.text?
    nodeId := ← fields.required "node_id" Document.text?
    workloadId := ← fields.required (workloadField family) Document.text?
    pending := ← fields.trailing "cmd" Document.text? }

/-- The fields of a placement, in declared order. -/
def toFields (family : WorkloadClass) (placement : Placement) :
    List (String × Option Document) := [
  ("id", some (.text placement.id)),
  ("node_id", some (.text placement.nodeId)),
  (workloadField family, some (.text placement.workloadId)),
  ("cmd", placement.pending.map .text)]

end Placement

end EdgeFleet
