import EdgeFleet.Net.Address
import EdgeFleet.Net.Mac
import EdgeFleet.Record.Workload

/-!
# Traffic policies enforced by nodes

An ordered list of rules, each of which selects traffic by where it comes from and where it goes,
and says what happens to it. `TrafficPolicy.check` requires every part of every rule.
-/

namespace EdgeFleet

/-- A match by link-layer addresses. -/
structure MacFilter where
  addresses : List String
  deriving Repr, DecidableEq, Inhabited

/-- A match by network, port range and protocol. -/
structure IpFilter where
  address : String
  /-- The number of leading bits that count. -/
  mask : UInt32
  beginPort : UInt32
  endPort : UInt32
  protocol : String
  deriving Repr, DecidableEq, Inhabited

/-- A match of tunnelled traffic, by tunnel endpoint and subscriber. -/
structure GtpFilter where
  address : String
  /-- The number of leading bits that count. -/
  mask : UInt32
  subscribers : List String
  deriving Repr, DecidableEq, Inhabited

/-- What traffic a rule is about. -/
structure Selector where
  description : String
  macs : Option MacFilter
  ip : Option IpFilter
  gtp : Option GtpFilter
  deriving Repr, DecidableEq, Inhabited

/-- What happens to traffic. -/
inductive TrafficAction where
  | accept
  | reject
  | drop
  deriving Repr, DecidableEq, Inhabited

namespace TrafficAction

/-- The name of an action. -/
def name : TrafficAction → String
  | .accept => "accept"
  | .reject => "reject"
  | .drop => "drop"

/-- The action with a given name. -/
def parse (text : String) : Except Violation TrafficAction :=
  match text with
  | "accept" => .ok .accept
  | "reject" => .ok .reject
  | "drop" => .ok .drop
  | _ => .error (.of .action)

end TrafficAction

/-- A new destination address and port. -/
structure IpRedirect where
  address : String
  port : UInt32
  deriving Repr, DecidableEq, Inhabited

/-- The outcome of a rule: an action, given by its name, and changes of the destination. -/
structure RuleTarget where
  description : String
  action : String
  /-- The new link-layer destination. -/
  mac : Option String
  ip : Option IpRedirect
  deriving Repr, DecidableEq, Inhabited

/-- A rule: from whom, to whom, and what then. Priority 1 is the highest. -/
structure TrafficRule where
  description : String
  priority : UInt32
  source : Option Selector
  destination : Option Selector
  target : Option RuleTarget
  deriving Repr, DecidableEq, Inhabited

/-- A list of rules. -/
structure TrafficPolicy where
  id : String
  rules : List TrafficRule
  deriving Repr, DecidableEq, Inhabited

/-- A text must be an Internet address. -/
def Check.address (place : Place) (text : String) : Check :=
  require (Net.Address.parse? text).isSome (.unparsable place)

namespace MacFilter

/-- Checks a match by link-layer addresses. -/
def check (filter : MacFilter) : Check :=
  Check.each (fun i text =>
    Check.require (Net.Mac.isValid text) (.unparsable (.item "mac_addresses" i))) filter.addresses

/-- Reads a match by link-layer addresses. -/
def ofDocument? (document : Document) : Option MacFilter := do
  let fields ← Fields.ofDocument? ["mac_addresses"] document
  return { addresses := ← fields.withDefault "mac_addresses" [] Document.texts? }

/-- Writes a match by link-layer addresses. -/
def toDocument (filter : MacFilter) : Document :=
  .ofFields [("mac_addresses", some (.ofTexts filter.addresses))]

end MacFilter

namespace IpFilter

/-- Checks a match by network, port range and protocol. -/
def check (filter : IpFilter) : Check := do
  Check.address "address" filter.address
  Check.range "mask" filter.mask.toNat 0 128
  Check.range "begin_port" filter.beginPort.toNat 1 maxPort
  Check.range "end_port" filter.endPort.toNat 1 maxPort
  Check.require (filter.beginPort ≤ filter.endPort) .reversedPorts
  Check.require (["tcp", "udp", "icmp", "sctp"].contains filter.protocol) .filterProtocol

/-- Reads a match by network, port range and protocol. -/
def ofDocument? (document : Document) : Option IpFilter := do
  let fields ← Fields.ofDocument? ["address", "mask", "begin_port", "end_port", "protocol"]
    document
  return {
    address := ← fields.required "address" Document.text?
    mask := ← fields.required "mask" Document.word?
    beginPort := ← fields.required "begin_port" Document.word?
    endPort := ← fields.required "end_port" Document.word?
    protocol := ← fields.required "protocol" Document.text? }

/-- Writes a match by network, port range and protocol. -/
def toDocument (filter : IpFilter) : Document :=
  .ofFields [
    ("address", some (.text filter.address)),
    ("mask", some (.ofWord filter.mask)),
    ("begin_port", some (.ofWord filter.beginPort)),
    ("end_port", some (.ofWord filter.endPort)),
    ("protocol", some (.text filter.protocol))]

end IpFilter

/-- Whether a text is a subscriber identity: 14 or 15 digits. -/
def isSubscriber (text : String) : Bool :=
  let cs := text.toList
  (cs.length == 14 || cs.length == 15) && cs.all Char.isDigit

namespace GtpFilter

/-- Checks a match of tunnelled traffic. -/
def check (filter : GtpFilter) : Check := do
  Check.nonEmpty "address" filter.address
  Check.address "address" filter.address
  Check.range "mask" filter.mask.toNat 0 128
  Check.each (fun i text => Check.require (isSubscriber text) (.subscriber i)) filter.subscribers

/-- Reads a match of tunnelled traffic. -/
def ofDocument? (document : Document) : Option GtpFilter := do
  let fields ← Fields.ofDocument? ["address", "mask", "imsis"] document
  return {
    address := ← fields.required "address" Document.text?
    mask := ← fields.required "mask" Document.word?
    subscribers := ← fields.withDefault "imsis" [] Document.texts? }

/-- Writes a match of tunnelled traffic. -/
def toDocument (filter : GtpFilter) : Document :=
  .ofFields [
    ("address", some (.text filter.address)),
    ("mask", some (.ofWord filter.mask)),
    ("imsis", some (.ofTexts filter.subscribers))]

end GtpFilter

namespace Selector

/-- Checks a selector. It must have a filter. -/
def check (selector : Selector) : Check := do
  Check.nonEmpty "description" selector.description
  Check.require (selector.macs.isSome || selector.ip.isSome || selector.gtp.isSome) .noFilter
  Check.optional (fun macs => Check.inside "macs" macs.check) selector.macs
  Check.optional (fun ip => Check.inside "ip" ip.check) selector.ip
  Check.optional (fun gtp => Check.inside "gtp" gtp.check) selector.gtp

/-- Reads a selector. -/
def ofDocument? (document : Document) : Option Selector := do
  let fields ← Fields.ofDocument? ["description", "macs", "ip", "gtp"] document
  return {
    description := ← fields.required "description" Document.text?
    macs := ← fields.trailing "macs" MacFilter.ofDocument?
    ip := ← fields.trailing "ip" IpFilter.ofDocument?
    gtp := ← fields.trailing "gtp" GtpFilter.ofDocument? }

/-- Writes a selector. -/
def toDocument (selector : Selector) : Document :=
  .ofFields [
    ("description", some (.text selector.description)),
    ("macs", selector.macs.map MacFilter.toDocument),
    ("ip", selector.ip.map IpFilter.toDocument),
    ("gtp", selector.gtp.map GtpFilter.toDocument)]

end Selector

namespace IpRedirect

/-- Checks a new destination address and port. -/
def check (redirect : IpRedirect) : Check := do
  Check.address "address" redirect.address
  Check.range "port" redirect.port.toNat 1 maxPort

/-- Reads a new destination address and port. -/
def ofDocument? (document : Document) : Option IpRedirect := do
  let fields ← Fields.ofDocument? ["address", "port"] document
  return {
    address := ← fields.required "address" Document.text?
    port := ← fields.required "port" Document.word? }

/-- Writes a new destination address and port. -/
def toDocument (redirect : IpRedirect) : Document :=
  .ofFields [
    ("address", some (.text redirect.address)),
    ("port", some (.ofWord redirect.port))]

end IpRedirect

namespace RuleTarget

/-- Checks the outcome of a rule. It must change something. -/
def check (target : RuleTarget) : Check := do
  Check.nonEmpty "description" target.description
  (TrafficAction.parse target.action).map fun _ => ()
  Check.require (target.mac.isSome || target.ip.isSome) .noRedirect
  Check.optional (fun mac => Check.inside "mac"
    (Check.require (Net.Mac.isValid mac) (.unparsable "mac_address"))) target.mac
  Check.optional (fun ip => Check.inside "ip" ip.check) target.ip

/-- Reads a new link-layer destination. -/
def macOfDocument? (document : Document) : Option String := do
  let fields ← Fields.ofDocument? ["mac_address"] document
  fields.required "mac_address" Document.text?

/-- Reads the outcome of a rule. -/
def ofDocument? (document : Document) : Option RuleTarget := do
  let fields ← Fields.ofDocument? ["description", "action", "mac", "ip"] document
  return {
    description := ← fields.required "description" Document.text?
    action := ← fields.required "action" Document.text?
    mac := ← fields.trailing "mac" macOfDocument?
    ip := ← fields.trailing "ip" IpRedirect.ofDocument? }

/-- Writes the outcome of a rule. -/
def toDocument (target : RuleTarget) : Document :=
  .ofFields [
    ("description", some (.text target.description)),
    ("action", some (.text target.action)),
    ("mac", target.mac.map fun mac => .ofFields [("mac_address", some (.text mac))]),
    ("ip", target.ip.map IpRedirect.toDocument)]

end RuleTarget

namespace TrafficRule

/-- A part that must be there, and must pass its check. -/
def checkPart {α : Type} (name : String) (check : α → Check) : Option α → Check
  | none => .error (.of (.empty name))
  | some part => Check.inside name (check part)

/-- Checks a rule. -/
def check (rule : TrafficRule) : Check := do
  Check.nonEmpty "description" rule.description
  Check.range "priority" rule.priority.toNat 1 65535
  checkPart "source" Selector.check rule.source
  checkPart "destination" Selector.check rule.destination
  checkPart "target" RuleTarget.check rule.target

/-- Reads a rule. -/
def ofDocument? (document : Document) : Option TrafficRule := do
  let fields ← Fields.ofDocument? ["description", "priority", "source", "destination", "target"]
    document
  return {
    description := ← fields.required "description" Document.text?
    priority := ← fields.required "priority" Document.word?
    source := ← fields.optional "source" Selector.ofDocument?
    destination := ← fields.optional "destination" Selector.ofDocument?
    target := ← fields.optional "target" RuleTarget.ofDocument? }

/-- A part that is written as null when it is not there. -/
def orNull {α : Type} (write : α → Document) (part : Option α) : Option Document :=
  some ((part.map write).getD .null)

/-- Writes a rule. -/
def toDocument (rule : TrafficRule) : Document :=
  .ofFields [
    ("description", some (.text rule.description)),
    ("priority", some (.ofWord rule.priority)),
    ("source", orNull Selector.toDocument rule.source),
    ("destination", orNull Selector.toDocument rule.destination),
    ("target", orNull RuleTarget.toDocument rule.target)]

end TrafficRule

namespace TrafficPolicy

/-- Checks a policy. It must have a rule. -/
def check (policy : TrafficPolicy) : Check := do
  Check.uuid "id" policy.id
  Check.require (!policy.rules.isEmpty) (.empty "traffic_rules")
  Check.each (fun i rule => Check.inside (.item "traffic_rules" i) rule.check) policy.rules

/-- Reads a policy. -/
def ofDocument? (document : Document) : Option TrafficPolicy := do
  let fields ← Fields.ofDocument? ["id", "traffic_rules"] document
  return {
    id := ← fields.required "id" Document.text?
    rules := ← fields.withDefault "traffic_rules" [] (Document.listOf? TrafficRule.ofDocument?) }

/-- The fields of a policy, in declared order. -/
def toFields (policy : TrafficPolicy) : List (String × Option Document) := [
  ("id", some (.text policy.id)),
  ("traffic_rules", some (.list (policy.rules.map TrafficRule.toDocument)))]

end TrafficPolicy

end EdgeFleet
