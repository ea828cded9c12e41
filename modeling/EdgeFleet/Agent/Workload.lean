import EdgeFleet.Record.Workload

/-!
# Workloads as nodes take them

A node takes the definition of an application or a network function in one message. Cores and
memory are numbers with a sign there, and a port without a protocol is open to all of them.
-/

namespace EdgeFleet.Agent

/-- An exposed port. The empty protocol stands for all. -/
structure Port where
  port : UInt32
  protocol : String
  deriving Repr, DecidableEq

/-- An application. -/
structure AppMessage where
  id : String
  name : String
  version : String
  vendor : String
  description : String
  cores : Int32
  memory : Int32
  ports : List Port
  source : String
  deriving DecidableEq

/-- A virtual network function. -/
structure VnfMessage where
  id : String
  name : String
  version : String
  vendor : String
  description : String
  cores : Int32
  memory : Int32
  source : String
  deriving DecidableEq

/-- The protocol of a port. -/
def protocolText : PortProtocol → String
  | .all => ""
  | protocol => protocol.name

/-- The message for an application. -/
def AppMessage.ofApp (app : App) : AppMessage where
  id := app.id
  name := app.name
  version := app.version
  vendor := app.vendor
  description := app.description
  cores := app.cores.toInt32
  memory := app.memory.toInt32
  ports := app.ports.map fun exposed => ⟨exposed.port, protocolText exposed.protocol⟩
  source := app.source

/-- The message for a virtual network function. -/
def VnfMessage.ofVnf (vnf : Vnf) : VnfMessage where
  id := vnf.id
  name := vnf.name
  version := vnf.version
  vendor := vnf.vendor
  description := vnf.description
  cores := vnf.cores.toInt32
  memory := vnf.memory.toInt32
  source := vnf.source

end EdgeFleet.Agent
