import EdgeFleet.Net.Address
import EdgeFleet.Record.Workload

/-!
# DNS configurations

The names that a node resolves and the resolvers that it asks for all others. An alias publishes
an application under a configuration: the node finds the address itself, so the record that is
pushed for it is named after the application and holds the application's ID as its only value.
-/

namespace EdgeFleet

/-- A name with its addresses. -/
structure DnsRecord where
  name : String
  description : String
  ips : List String
  deriving Repr, DecidableEq, Inhabited

/-- A resolver for names that the node does not know. -/
structure DnsForwarder where
  name : String
  description : String
  ip : String
  deriving Repr, DecidableEq, Inhabited

/-- The records and forwarders of a node. -/
structure DnsConfig where
  id : String
  name : String
  records : List DnsRecord
  forwarders : List DnsForwarder
  deriving Repr, DecidableEq, Inhabited

/-- An application that is published under a DNS configuration. -/
structure DnsAlias where
  id : String
  configId : String
  name : String
  description : String
  appId : String
  deriving Repr, DecidableEq, Inhabited

/-- A text must be an Internet address that names a machine. -/
def Check.usableAddress (place : Place) (text : String) : Check :=
  match Net.Address.parse? text with
  | none => .error (.of (.unparsable place))
  | some address => require (!address.isUnspecified) (.unspecified place)

namespace DnsRecord

/-- Checks a record. -/
def check (record : DnsRecord) : Check := do
  Check.nonEmpty "name" record.name
  Check.nonEmpty "description" record.description
  Check.require (!record.ips.isEmpty) (.empty "ips")
  Check.each (fun i ip => Check.usableAddress (.item "ips" i) ip) record.ips

/-- Reads a record. -/
def ofDocument? (document : Document) : Option DnsRecord := do
  let fields ← Fields.ofDocument? ["name", "description", "ips"] document
  return {
    name := ← fields.required "name" Document.text?
    description := ← fields.required "description" Document.text?
    ips := ← fields.required "ips" Document.texts? }

/-- Writes a record. -/
def toDocument (record : DnsRecord) : Document :=
  .ofFields [
    ("name", some (.text record.name)),
    ("description", some (.text record.description)),
    ("ips", some (.ofTexts record.ips))]

end DnsRecord

namespace DnsForwarder

/-- Checks a forwarder. -/
def check (forwarder : DnsForwarder) : Check := do
  Check.nonEmpty "name" forwarder.name
  Check.nonEmpty "description" forwarder.description
  Check.usableAddress "ip" forwarder.ip

/-- Reads a forwarder. -/
def ofDocument? (document : Document) : Option DnsForwarder := do
  let fields ← Fields.ofDocument? ["name", "description", "ip"] document
  return {
    name := ← fields.required "name" Document.text?
    description := ← fields.required "description" Document.text?
    ip := ← fields.required "ip" Document.text? }

/-- Writes a forwarder. -/
def toDocument (forwarder : DnsForwarder) : Document :=
  .ofFields [
    ("name", some (.text forwarder.name)),
    ("description", some (.text forwarder.description)),
    ("ip", some (.text forwarder.ip))]

end DnsForwarder

namespace DnsConfig

/-- The addresses of the forwarders, in order. -/
def forwarderIps (config : DnsConfig) : List String :=
  config.forwarders.map (·.ip)

/-- Checks a configuration. It must have a record or a forwarder. -/
def check (config : DnsConfig) : Check := do
  Check.uuid "id" config.id
  Check.nonEmpty "name" config.name
  Check.require (!config.records.isEmpty || !config.forwarders.isEmpty) .noRecordsNorForwarders
  Check.each (fun i record => Check.inside (.item "records" i) record.check) config.records
  Check.each (fun i forwarder => Check.inside (.item "forwarders" i) forwarder.check)
    config.forwarders

/-- Reads a configuration. -/
def ofDocument? (document : Document) : Option DnsConfig := do
  let fields ← Fields.ofDocument? ["id", "name", "records", "forwarders"] document
  return {
    id := ← fields.required "id" Document.text?
    name := ← fields.required "name" Document.text?
    records := ← fields.withDefault "records" [] (Document.listOf? DnsRecord.ofDocument?)
    forwarders := ← fields.withDefault "forwarders" []
      (Document.listOf? DnsForwarder.ofDocument?) }

/-- The fields of a configuration, in declared order. -/
def toFields (config : DnsConfig) : List (String × Option Document) := [
  ("id", some (.text config.id)),
  ("name", some (.text config.name)),
  ("records", some (.list (config.records.map DnsRecord.toDocument))),
  ("forwarders", some (.list (config.forwarders.map DnsForwarder.toDocument)))]

end DnsConfig

namespace DnsAlias

/-- The record that is pushed to a node for an alias. -/
def record (entry : DnsAlias) : DnsRecord :=
  ⟨entry.appId, entry.description, [entry.appId]⟩

/-- Checks an alias. -/
def check (entry : DnsAlias) : Check := do
  Check.uuid "id" entry.id
  Check.uuid "dns_config_id" entry.configId
  Check.nonEmpty "name" entry.name
  Check.nonEmpty "description" entry.description
  Check.uuid "app_id" entry.appId

/-- Reads an alias. -/
def ofDocument? (document : Document) : Option DnsAlias := do
  let fields ← Fields.ofDocument? ["id", "dns_config_id", "name", "description", "app_id"]
    document
  return {
    id := ← fields.required "id" Document.text?
    configId := ← fields.required "dns_config_id" Document.text?
    name := ← fields.required "name" Document.text?
    description := ← fields.required "description" Document.text?
    appId := ← fields.required "app_id" Document.text? }

/-- The fields of an alias, in declared order. -/
def toFields (entry : DnsAlias) : List (String × Option Document) := [
  ("id", some (.text entry.id)),
  ("dns_config_id", some (.text entry.configId)),
  ("name", some (.text entry.name)),
  ("description", some (.text entry.description)),
  ("app_id", some (.text entry.appId))]

end DnsAlias

end EdgeFleet
