import EdgeFleet.Document
import EdgeFleet.Record.Violation
import EdgeFleet.Uuid

/-!
# Workloads

The applications and virtual network functions that run on edge nodes. Both have an image to fetch
and a footprint, which `App.check` and `Vnf.check` keep within what a node offers; only an
application exposes ports. `Workload` is either of the two, and `WorkloadRef` names one that is
already deployed.
-/

namespace EdgeFleet

/-- A UUID is required. -/
def Check.uuid (place : Place) (text : String) : Check :=
  require (Uuid.isValid text) (.notUuid place)

/-- How the image of a workload is packed. -/
inductive Packaging where
  | container
  | vm
  deriving Repr, DecidableEq, Inhabited

namespace Packaging

/-- The name of a packaging. -/
def name : Packaging → String
  | .container => "container"
  | .vm => "vm"

/-- The packaging that a document names. -/
def ofDocument? (document : Document) : Option Packaging := do
  [.container, .vm][← document.choice? ["container", "vm"]]?

end Packaging

/-- The transport protocol of an exposed port. -/
inductive PortProtocol where
  | tcp
  | udp
  | icmp
  | sctp
  | all
  deriving Repr, DecidableEq, Inhabited

namespace PortProtocol

/-- The name of a protocol. -/
def name : PortProtocol → String
  | .tcp => "tcp"
  | .udp => "udp"
  | .icmp => "icmp"
  | .sctp => "sctp"
  | .all => "all"

/-- The protocol that a document names. -/
def ofDocument? (document : Document) : Option PortProtocol := do
  [.tcp, .udp, .icmp, .sctp, .all][← document.choice? ["tcp", "udp", "icmp", "sctp", "all"]]?

end PortProtocol

/-- A 32-bit number of a document. -/
def Document.word? (document : Document) : Option UInt32 :=
  (document.natBelow? 0x100000000).map UInt32.ofNat

/-- A 32-bit number, as a document. -/
def Document.ofWord (value : UInt32) : Document :=
  .int value.toNat

/-- A port that an application exposes. -/
structure ExposedPort where
  port : UInt32
  protocol : PortProtocol
  deriving Repr, DecidableEq, Inhabited

namespace ExposedPort

/-- Reads an exposed port. -/
def ofDocument? (document : Document) : Option ExposedPort := do
  let fields ← Fields.ofDocument? ["port", "protocol"] document
  return {
    port := ← fields.required "port" Document.word?
    protocol := ← fields.required "protocol" PortProtocol.ofDocument? }

/-- Writes an exposed port. -/
def toDocument (port : ExposedPort) : Document :=
  .ofFields [
    ("port", some (.ofWord port.port)),
    ("protocol", some (.text port.protocol.name))]

end ExposedPort

/-- An application. -/
structure App where
  id : String
  packaging : Packaging
  name : String
  version : String
  vendor : String
  description : String
  cores : UInt32
  /-- Memory in megabytes. -/
  memory : UInt32
  ports : List ExposedPort
  /-- Where the node fetches the image from. -/
  source : String
  deriving Repr, DecidableEq, Inhabited

/-- A virtual network function. -/
structure Vnf where
  id : String
  packaging : Packaging
  name : String
  version : String
  vendor : String
  description : String
  cores : UInt32
  /-- Memory in megabytes. -/
  memory : UInt32
  /-- Where the node fetches the image from. -/
  source : String
  deriving Repr, DecidableEq, Inhabited

/-- The most cores that a workload may ask for. -/
def maxCores : Nat := 8

/-- The most memory that a workload may ask for, in megabytes. -/
def maxMemory : Nat := 16384

/-- The ports there are. -/
def maxPort : Nat := 65535

/-- Checks what applications and network functions have in common. -/
def checkFootprint (name version vendor : String) (cores memory : UInt32) (source : String) :
    Check := do
  Check.nonEmpty "name" name
  Check.nonEmpty "version" version
  Check.nonEmpty "vendor" vendor
  Check.range "cores" cores.toNat 1 maxCores
  Check.range "memory" memory.toNat 1 maxMemory
  match Uri.Url.check source with
  | .ok () => .ok ()
  | .error cause => Check.inside "source" (.error (.of (.url cause)))

namespace App

/-- Checks an application. -/
def check (app : App) : Check := do
  Check.uuid "id" app.id
  checkFootprint app.name app.version app.vendor app.cores app.memory app.source
  Check.each (fun i port =>
    Check.inside (.item "ports" i) (Check.range "port" port.port.toNat 1 maxPort)) app.ports

/-- Reads an application. -/
def ofDocument? (document : Document) : Option App := do
  let fields ← Fields.ofDocument? ["id", "type", "name", "version", "vendor", "description",
    "cores", "memory", "ports", "source"] document
  return {
    id := ← fields.required "id" Document.text?
    packaging := ← fields.required "type" Packaging.ofDocument?
    name := ← fields.required "name" Document.text?
    version := ← fields.required "version" Document.text?
    vendor := ← fields.required "vendor" Document.text?
    description := ← fields.withDefault "description" "" Document.text?
    cores := ← fields.required "cores" Document.word?
    memory := ← fields.required "memory" Document.word?
    ports := ← fields.withDefault "ports" [] (Document.listOf? ExposedPort.ofDocument?)
    source := ← fields.required "source" Document.text? }

/-- The fields of an application, in declared order. -/
def toFields (app : App) : List (String × Option Document) := [
  ("id", some (.text app.id)),
  ("type", some (.text app.packaging.name)),
  ("name", some (.text app.name)),
  ("version", some (.text app.version)),
  ("vendor", some (.text app.vendor)),
  ("description", some (.text app.description)),
  ("cores", some (.ofWord app.cores)),
  ("memory", some (.ofWord app.memory)),
  ("ports", some (.list (app.ports.map ExposedPort.toDocument))),
  ("source", some (.text app.source))]

end App

namespace Vnf

/-- Checks a virtual network function. -/
def check (vnf : Vnf) : Check := do
  Check.uuid "id" vnf.id
  checkFootprint vnf.name vnf.version vnf.vendor vnf.cores vnf.memory vnf.source

/-- Reads a virtual network function. -/
def ofDocument? (document : Document) : Option Vnf := do
  let fields ← Fields.ofDocument? ["id", "type", "name", "version", "vendor", "description",
    "cores", "memory", "source"] document
  return {
    id := ← fields.required "id" Document.text?
    packaging := ← fields.required "type" Packaging.ofDocument?
    name := ← fields.required "name" Document.text?
    version := ← fields.required "version" Document.text?
    vendor := ← fields.required "vendor" Document.text?
    description := ← fields.withDefault "description" "" Document.text?
    cores := ← fields.required "cores" Document.word?
    memory := ← fields.required "memory" Document.word?
    source := ← fields.required "source" Document.text? }

/-- The fields of a virtual network function, in declared order. -/
def toFields (vnf : Vnf) : List (String × Option Document) := [
  ("id", some (.text vnf.id)),
  ("type", some (.text vnf.packaging.name)),
  ("name", some (.text vnf.name)),
  ("version", some (.text vnf.version)),
  ("vendor", some (.text vnf.vendor)),
  ("description", some (.text vnf.description)),
  ("cores", some (.ofWord vnf.cores)),
  ("memory", some (.ofWord vnf.memory)),
  ("source", some (.text vnf.source))]

end Vnf

/-- The two families of workloads, which nodes serve apart. -/
inductive WorkloadClass where
  | app
  | vnf
  deriving Repr, DecidableEq, Inhabited

/-- The name of a family in messages. -/
def WorkloadClass.name : WorkloadClass → String
  | .app => "application"
  | .vnf => "vnf"

/-- A workload that is already deployed. -/
structure WorkloadRef where
  family : WorkloadClass
  id : String
  deriving Repr, DecidableEq, Inhabited

/-- How messages name a workload. -/
def WorkloadRef.name (ref : WorkloadRef) : String :=
  ref.family.name ++ " " ++ ref.id

/-- A workload to deploy. -/
inductive Workload where
  | app (app : App)
  | vnf (vnf : Vnf)
  deriving Repr, DecidableEq

namespace Workload

/-- The ID of a workload. -/
def id : Workload → String
  | .app a => a.id
  | .vnf v => v.id

/-- The family of a workload. -/
def family : Workload → WorkloadClass
  | .app _ => .app
  | .vnf _ => .vnf

/-- The packaging of a workload. -/
def packaging : Workload → Packaging
  | .app a => a.packaging
  | .vnf v => v.packaging

/-- The cores that a workload asks for. -/
def cores : Workload → UInt32
  | .app a => a.cores
  | .vnf v => v.cores

/-- The memory that a workload asks for, in megabytes. -/
def memory : Workload → UInt32
  | .app a => a.memory
  | .vnf v => v.memory

/-- The ports that a workload exposes; a network function exposes none. -/
def ports : Workload → List ExposedPort
  | .app a => a.ports
  | .vnf _ => []

/-- The reference to a workload once it is deployed. -/
def ref (workload : Workload) : WorkloadRef :=
  ⟨workload.family, workload.id⟩

/-- Checks a workload. -/
def check : Workload → Check
  | .app a => a.check
  | .vnf v => v.check

end Workload

end EdgeFleet
