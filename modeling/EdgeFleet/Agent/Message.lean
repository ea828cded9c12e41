import EdgeFleet.Agent.Request

/-!
# Messages to a node, written down

The JSON form of the message of every request, with the field names of the protocol. Fields that
hold a message of their own are null when it is not there.
-/

namespace EdgeFleet.Agent

/-- The JSON form of a selector. -/
def selectorJson (selector : Selector) : Json :=
  .object [
    ("description", .string selector.description),
    ("macs", .ofOption (fun macs => .object [("mac_addresses", .strings macs.addresses)])
      selector.macs),
    ("ip", .ofOption (fun ip => .object [
      ("address", .string ip.address), ("mask", (ip.mask.toNat : Json)),
      ("begin_port", (ip.beginPort.toNat : Json)), ("end_port", (ip.endPort.toNat : Json)),
      ("protocol", .string ip.protocol)]) selector.ip),
    ("gtp", .ofOption (fun gtp => .object [
      ("address", .string gtp.address), ("mask", (gtp.mask.toNat : Json)),
      ("imsis", .strings gtp.subscribers)]) selector.gtp)]

namespace Target

/-- The JSON form of the outcome of a rule. -/
def toJson (target : Target) : Json :=
  .object [
    ("description", .string target.description),
    ("action", (target.action : Json)),
    ("mac", .ofOption (fun mac => .object [("mac_address", .string mac)]) target.mac),
    ("ip", .ofOption (fun ip => .object [
      ("address", .string ip.address), ("port", (ip.port.toNat : Json))]) target.ip)]

end Target

namespace Rule

/-- The JSON form of a rule. -/
def toJson (rule : Rule) : Json :=
  .object [
    ("description", .string rule.description),
    ("priority", (rule.priority.toNat : Json)),
    ("source", .ofOption selectorJson rule.source),
    ("destination", .ofOption selectorJson rule.destination),
    ("target", .ofOption Target.toJson rule.target)]

end Rule

namespace Policy

/-- The JSON form of a policy. -/
def toJson (policy : Policy) : Json :=
  .object [("id", .string policy.id), ("traffic_rules", .ofList Rule.toJson policy.rules)]

end Policy

namespace AppMessage

/-- The JSON form of an application. -/
def toJson (app : AppMessage) : Json :=
  .object [
    ("id", .string app.id), ("name", .string app.name), ("version", .string app.version),
    ("vendor", .string app.vendor), ("description", .string app.description),
    ("cores", .int app.cores.toInt), ("memory", .int app.memory.toInt),
    ("ports", .ofList (fun port => .object [
      ("port", (port.port.toNat : Json)), ("protocol", .string port.protocol)]) app.ports),
    ("source", .string app.source)]

end AppMessage

namespace VnfMessage

/-- The JSON form of a virtual network function. -/
def toJson (vnf : VnfMessage) : Json :=
  .object [
    ("id", .string vnf.id), ("name", .string vnf.name), ("version", .string vnf.version),
    ("vendor", .string vnf.vendor), ("description", .string vnf.description),
    ("cores", .int vnf.cores.toInt), ("memory", .int vnf.memory.toInt),
    ("source", .string vnf.source)]

end VnfMessage

namespace Interface

/-- The JSON form of a network interface. -/
def toJson (interface : Interface) : Json :=
  .object [
    ("id", .string interface.id), ("description", .string interface.description),
    ("driver", .int interface.driver.toInt), ("type", .int interface.direction.toInt),
    ("mac_address", .string interface.mac), ("vlan", (interface.vlan.toNat : Json)),
    ("zones", .strings interface.zones), ("fallback_interface", .string interface.fallback)]

end Interface

namespace Request

/-- The JSON form of the message of a request; an empty message is null. -/
def message : Request → Json
  | .deploy _ (.app app) | .redeploy (.app app) => app.toJson
  | .deploy _ (.vnf vnf) | .redeploy (.vnf vnf) => vnf.toJson
  | .command _ given id => .object [("id", .string id), ("cmd", (given.number : Json))]
  | .status _ id | .undeploy _ id | .interface id => .object [("id", .string id)]
  | .setPolicy policy | .setInterfacePolicy policy => policy.toJson
  | .setRecord name values | .deleteRecord name values =>
    .object [("name", .string name), ("values", .strings values)]
  | .setForwarders addresses | .deleteForwarders addresses =>
    .object [("ip_addresses", .strings addresses)]
  | .interfaces => .null
  | .updateInterface one => one.toJson
  | .updateInterfaces all => .object [("network_interfaces", .ofList Interface.toJson all)]

end Request

end EdgeFleet.Agent
