import EdgeFleet.Broker
import EdgeFleet.Record.Basic

/-!
# Inventories

The records that a controller works on: nodes and their addresses, workloads, policies and DNS
configurations. `Inventory.ofRecords` takes a list of records only if every record passes its
check, no two records of a kind share an ID, and every alias names a configuration and an
application of the list, no two of them the same pair.
-/

namespace EdgeFleet

/-- A traffic policy of either kind. -/
inductive PolicyPayload where
  | native (policy : TrafficPolicy)
  | cluster (policy : ClusterPolicy)
  deriving Repr, DecidableEq

namespace PolicyPayload

/-- Who can enforce a policy. -/
def kind : PolicyPayload → PolicyKind
  | .native _ => .native
  | .cluster _ => .cluster

/-- Checks a policy. -/
def check : PolicyPayload → Check
  | .native policy => policy.check
  | .cluster policy => policy.check

end PolicyPayload

/-- Records by kind, each kind in the order in which its records were given. Placements are not
kept: nothing asks for them. -/
structure Inventory where
  nodes : List Node
  targets : List NodeTarget
  apps : List App
  vnfs : List Vnf
  trafficPolicies : List TrafficPolicy
  clusterPolicies : List ClusterPolicy
  dnsConfigs : List DnsConfig
  dnsAliases : List DnsAlias
  deriving Repr, DecidableEq

namespace Inventory

/-- The inventory without records. -/
def empty : Inventory :=
  ⟨[], [], [], [], [], [], [], []⟩

/-- Adds an item unless one with its ID is there. -/
def add {α : Type} (idOf : α → String) (table : String) (item : α) (items : List α) :
    Except Error (List α) :=
  if items.any fun other => idOf other == idOf item then
    .error (.validation (.duplicate table (idOf item)))
  else .ok (items ++ [item])

/-- Adds a record. Its ID must be new among the records of its kind that are kept by ID. -/
def insert (inventory : Inventory) (record : Record) : Except Error Inventory :=
  let table := record.table
  match record with
  | .node e => return { inventory with nodes := ← add Node.id table e inventory.nodes }
  | .target e => return { inventory with targets := inventory.targets ++ [e] }
  | .app e => return { inventory with apps := ← add App.id table e inventory.apps }
  | .vnf e => return { inventory with vnfs := ← add Vnf.id table e inventory.vnfs }
  | .placement _ _ => return inventory
  | .trafficPolicy e =>
    return { inventory with
      trafficPolicies := ← add TrafficPolicy.id table e inventory.trafficPolicies }
  | .clusterPolicy e =>
    return { inventory with
      clusterPolicies := ← add ClusterPolicy.id table e inventory.clusterPolicies }
  | .dnsConfig e =>
    return { inventory with dnsConfigs := ← add DnsConfig.id table e inventory.dnsConfigs }
  | .dnsAlias e =>
    return { inventory with dnsAliases := ← add DnsAlias.id table e inventory.dnsAliases }

/-- Checks a record and adds it. -/
def insertChecked (inventory : Inventory) (index : Nat) (record : Record) :
    Except Error Inventory :=
  match record.check with
  | .error violation => .error (.validation (.record index record.table violation))
  | .ok () => inventory.insert record

/-- Checks what an alias refers to, given the aliases before it. -/
def checkAlias (inventory : Inventory) (before : List DnsAlias) (entry : DnsAlias) :
    Except Error Unit :=
  if !inventory.dnsConfigs.any (·.id == entry.configId) then
    .error (.validation (.aliasConfig entry.id entry.configId))
  else if !inventory.apps.any (·.id == entry.appId) then
    .error (.validation (.aliasApp entry.id entry.appId))
  else if before.any fun other =>
      other.configId == entry.configId && other.appId == entry.appId then
    .error (.validation (.aliasRepeated entry.configId entry.appId))
  else .ok ()

/-- Checks aliases in order, each against those before it. -/
def checkAliases (inventory : Inventory) (before : List DnsAlias) :
    List DnsAlias → Except Error Unit
  | [] => .ok ()
  | entry :: rest => do
    inventory.checkAlias before entry
    inventory.checkAliases (before ++ [entry]) rest

/-- The inventory of a list of records. The first record that cannot be taken is reported. -/
def ofRecords (records : List Record) : Except Error Inventory := do
  let inventory ← records.zipIdx.foldlM
    (fun inventory (record, index) => inventory.insertChecked index record) empty
  inventory.checkAliases [] inventory.dnsAliases
  return inventory

/-- Finds an item by its ID. -/
def find {α : Type} (idOf : α → String) (missing : Missing) (id : String) (items : List α) :
    Except Error α :=
  match items.find? fun item => idOf item == id with
  | some item => .ok item
  | none => .error (.notFound missing)

/-- The workload with an ID. An application comes before a network function of the same ID. -/
def workload (inventory : Inventory) (id : String) : Except Error Workload :=
  match inventory.apps.find? (·.id == id) with
  | some app => .ok (.app app)
  | none => (find Vnf.id (.workload id) id inventory.vnfs).map .vnf

/-- The traffic policy with an ID. A native one comes before one for the cluster. -/
def policy (inventory : Inventory) (id : String) : Except Error PolicyPayload :=
  match inventory.trafficPolicies.find? (·.id == id) with
  | some policy => .ok (.native policy)
  | none => (find ClusterPolicy.id (.policy id) id inventory.clusterPolicies).map .cluster

/-- The native traffic policy with an ID. -/
def nativePolicy (inventory : Inventory) (id : String) : Except Error TrafficPolicy :=
  find TrafficPolicy.id (.policy id) id inventory.trafficPolicies

/-- The DNS configuration with an ID. -/
def dnsConfig (inventory : Inventory) (id : String) : Except Error DnsConfig :=
  find DnsConfig.id (.dnsConfig id) id inventory.dnsConfigs

/-- The aliases of a DNS configuration. -/
def dnsAliasesOf (inventory : Inventory) (configId : String) : List DnsAlias :=
  inventory.dnsAliases.filter (·.configId == configId)

/-- The addresses that a node registered. -/
def targetsOf (inventory : Inventory) (nodeId : String) : List String :=
  (inventory.targets.filter (·.nodeId == nodeId)).map (·.target)

/-- The node with an ID. -/
def node? (inventory : Inventory) (id : String) : Option Node :=
  inventory.nodes.find? (·.id == id)

/-- The nodes of an inventory, for finding them. -/
def directory (inventory : Inventory) : Directory where
  targets := fun nodeId => .ok (inventory.targetsOf nodeId)
  node := fun id => .ok (inventory.node? id)

end Inventory

end EdgeFleet
