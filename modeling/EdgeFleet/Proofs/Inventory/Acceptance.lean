import EdgeFleet.Proofs.Inventory
import Mathlib.Data.List.Induction

/-!
# Which lists of records make an inventory

A list of records is taken if every record passes its check, no two records clash, and every alias
refers to records of the list, and only then. This does not depend on the order of the records, and
neither does what is found by an ID (`acceptance`).
-/

namespace EdgeFleet

/-- Whether two aliases publish the same application under the same configuration. -/
def DnsAlias.SamePair (first second : DnsAlias) : Prop :=
  first.configId = second.configId ∧ first.appId = second.appId

/-- Records that cannot be in one inventory: two of a kind that is kept by ID with the same ID, and
two aliases of the same pair. -/
inductive Record.Clash : Record → Record → Prop
  | node {first second : Node} (h : first.id = second.id) : Clash (.node first) (.node second)
  | app {first second : App} (h : first.id = second.id) : Clash (.app first) (.app second)
  | vnf {first second : Vnf} (h : first.id = second.id) : Clash (.vnf first) (.vnf second)
  | trafficPolicy {first second : TrafficPolicy} (h : first.id = second.id) :
      Clash (.trafficPolicy first) (.trafficPolicy second)
  | clusterPolicy {first second : ClusterPolicy} (h : first.id = second.id) :
      Clash (.clusterPolicy first) (.clusterPolicy second)
  | dnsConfig {first second : DnsConfig} (h : first.id = second.id) :
      Clash (.dnsConfig first) (.dnsConfig second)
  | dnsAlias {first second : DnsAlias} (h : first.id = second.id) :
      Clash (.dnsAlias first) (.dnsAlias second)
  | pair {first second : DnsAlias} (h : first.SamePair second) :
      Clash (.dnsAlias first) (.dnsAlias second)

/-- Which of two clashing records comes first makes no difference. -/
theorem Record.Clash.symm {first second : Record} (h : first.Clash second) :
    second.Clash first := by
  cases h with
  | node h => exact .node h.symm
  | app h => exact .app h.symm
  | vnf h => exact .vnf h.symm
  | trafficPolicy h => exact .trafficPolicy h.symm
  | clusterPolicy h => exact .clusterPolicy h.symm
  | dnsConfig h => exact .dnsConfig h.symm
  | dnsAlias h => exact .dnsAlias h.symm
  | pair h => exact .pair ⟨h.1.symm, h.2.symm⟩

/-- The alias in a record, if it is one of a DNS configuration. -/
def Record.aliasOf? (configId : String) : Record → Option DnsAlias
  | .dnsAlias entry => if entry.configId = configId then some entry else none
  | _ => none

/-- The address in a record, if it is one that a node registered. -/
def Record.targetOf? (nodeId : String) : Record → Option String
  | .target entry => if entry.nodeId = nodeId then some entry.target else none
  | _ => none

namespace Inventory

/-- Whether an alias names a configuration and an application among some records. -/
def Resolves (records : List Record) (entry : DnsAlias) : Prop :=
  (∃ config, .dnsConfig config ∈ records ∧ config.id = entry.configId) ∧
    ∃ app, .app app ∈ records ∧ app.id = entry.appId

/-- Whether records can make up an inventory. -/
structure Acceptable (records : List Record) : Prop where
  valid : ∀ record ∈ records, record.check = .ok ()
  apart : records.Pairwise fun first second => ¬ first.Clash second
  resolved : ∀ entry, .dnsAlias entry ∈ records → Resolves records entry

variable {α : Type} {inventory other : Inventory} {records others : List Record}

/-! ### Tables and records -/

namespace Table

/-- Whether two records are not items of a table with the same ID. -/
def Apart (kept : Table α) (first second : Record) : Prop :=
  ∀ item, kept.pick first = some item → ∀ another, kept.pick second = some another →
    kept.idOf item ≠ kept.idOf another

/-- The IDs of a table are apart exactly if its records are. -/
theorem nodup_iff (kept : Table α) :
    ((records.filterMap kept.pick).map kept.idOf).Nodup ↔ records.Pairwise kept.Apart := by
  rw [List.Nodup, List.pairwise_map, List.pairwise_filterMap]
  rfl

/-- The ID of a record is new in a table that holds records which it is apart from. -/
theorem new_of_apart (kept : Table α) {record : Record} {item : α}
    (hitems : kept.items inventory = records.filterMap kept.pick)
    (hapart : ∀ before ∈ records, kept.Apart before record) (hpick : kept.pick record = some item) :
    New kept.idOf item (kept.items inventory) := by
  intro earlier hearlier
  rw [hitems] at hearlier
  obtain ⟨before, hbefore, hpicked⟩ := List.mem_filterMap.1 hearlier
  exact hapart before hbefore earlier hpicked item hpick

variable (kept : Table α)

/-- A table that holds the records of its kind holds what there is a record of. -/
theorem mem_iff {item : α} (hitems : kept.items inventory = records.filterMap kept.pick) :
    item ∈ kept.items inventory ↔ kept.record item ∈ records := by
  rw [hitems, List.mem_filterMap]
  constructor
  · rintro ⟨record, hrecord, hpick⟩
    exact kept.pick_eq hpick ▸ hrecord
  · exact fun hrecord => ⟨_, hrecord, kept.pick_record item⟩

variable (hrecords : ofRecords records = .ok inventory)
include hrecords

/-- The item that there is a record of is found by its ID, and no other one. -/
theorem find_iff {id : String} {item : α} :
    (kept.items inventory).find? (fun found => kept.idOf found == id) = some item ↔
      kept.record item ∈ records ∧ kept.idOf item = id := by
  rw [← kept.mem_iff (kept.of_records hrecords).2.2]
  constructor
  · intro hfound
    exact ⟨List.mem_of_find?_eq_some hfound, by simpa using List.find?_some hfound⟩
  · rintro ⟨hitem, rfl⟩
    exact kept.find_of_mem hrecords hitem

/-- What is found by an ID does not depend on the order of the records. -/
theorem find_perm (hothers : ofRecords others = .ok other) (h : records.Perm others)
    (id : String) : (kept.items inventory).find? (fun found => kept.idOf found == id) =
      (kept.items other).find? fun found => kept.idOf found == id := by
  refine Option.ext fun item => ?_
  rw [kept.find_iff hrecords, kept.find_iff hothers, h.mem_iff]

end Table

/-! ### Adding records -/

/-- An item with a new ID is added. -/
theorem add_new {idOf : α → String} {table : String} {item : α} {items : List α}
    (h : New idOf item items) : add idOf table item items = .ok (items ++ [item]) := by
  unfold add
  rw [if_neg]
  intro hany
  obtain ⟨earlier, hearlier, hid⟩ := List.any_eq_true.1 hany
  exact h earlier hearlier (beq_iff_eq.1 hid)

/-- Whether every table of an inventory holds the records of its kind. -/
structure Holds (inventory : Inventory) (records : List Record) : Prop where
  table : ∀ {α : Type} (kept : Table α), kept.items inventory = records.filterMap kept.pick
  targets : inventory.targets = records.filterMap fun
    | .target e => some e
    | _ => none

/-- A record that clashes with none that the inventory holds can be added. -/
theorem insert_apart (hholds : inventory.Holds records) {record : Record}
    (hapart : ∀ before ∈ records, ¬ before.Clash record) :
    ∃ next, inventory.insert record = .ok next := by
  -- Each kind has a table, and the clash with a record of this table has a case of its own.
  have hnew {α : Type} (kept : Table α) {item : α} (hitem : kept.record item = record)
      (hclash : ∀ {earlier}, kept.idOf earlier = kept.idOf item →
        (kept.record earlier).Clash (kept.record item)) :
      New kept.idOf item (kept.items inventory) := by
    subst hitem
    refine kept.new_of_apart (hholds.table kept) (fun before hbefore => ?_) (kept.pick_record item)
    intro earlier hearlier another hanother hid
    obtain rfl := Option.some.inj (hanother.symm.trans (kept.pick_record item))
    obtain rfl := kept.pick_eq hearlier
    exact hapart _ hbefore (hclash hid)
  cases record with
  | target e => exact ⟨_, rfl⟩
  | placement family e => exact ⟨_, rfl⟩
  | node e =>
      have h : New Node.id e inventory.nodes := hnew .nodes rfl .node
      exact ⟨_, by rw [insert, add_new h]; rfl⟩
  | app e =>
      have h : New App.id e inventory.apps := hnew .apps rfl .app
      exact ⟨_, by rw [insert, add_new h]; rfl⟩
  | vnf e =>
      have h : New Vnf.id e inventory.vnfs := hnew .vnfs rfl .vnf
      exact ⟨_, by rw [insert, add_new h]; rfl⟩
  | trafficPolicy e =>
      have h : New TrafficPolicy.id e inventory.trafficPolicies := hnew .trafficPolicies rfl .trafficPolicy
      exact ⟨_, by rw [insert, add_new h]; rfl⟩
  | clusterPolicy e =>
      have h : New ClusterPolicy.id e inventory.clusterPolicies := hnew .clusterPolicies rfl .clusterPolicy
      exact ⟨_, by rw [insert, add_new h]; rfl⟩
  | dnsConfig e =>
      have h : New DnsConfig.id e inventory.dnsConfigs := hnew .dnsConfigs rfl .dnsConfig
      exact ⟨_, by rw [insert, add_new h]; rfl⟩
  | dnsAlias e =>
      have h : New DnsAlias.id e inventory.dnsAliases := hnew .dnsAliases rfl .dnsAlias
      exact ⟨_, by rw [insert, add_new h]; rfl⟩

/-- Adding a record puts it into its table. -/
theorem Holds.inserted (h : inventory.Holds records) {record : Record}
    (hinserted : Inserted inventory record other) : other.Holds (records ++ [record]) where
  table kept := by
    rw [(kept.inserted hinserted).1, h.table kept, List.filterMap_append]
    cases hpick : kept.pick record <;> simp [hpick]
  targets := by
    rw [List.filterMap_append, ← h.targets]
    cases hinserted with
    | target e => rfl
    | _ => exact (List.append_nil _).symm

/-- Records that can make up an inventory can be added one after another. -/
theorem Acceptable.folds (hvalid : ∀ record ∈ records, record.check = .ok ())
    (hapart : records.Pairwise fun first second => ¬ first.Clash second) :
    ∃ inventory, records.zipIdx.foldlM
      (fun inventory (record, index) => inventory.insertChecked index record) empty =
        .ok inventory ∧ inventory.Holds records := by
  -- The induction goes from the end, as a record is added to those before it.
  induction records using List.reverseRecOn with
  | nil => exact ⟨empty, rfl, fun kept => kept.items_empty, rfl⟩
  | append_singleton before record ih =>
      obtain ⟨hbefore, -, hclash⟩ := List.pairwise_append.1 hapart
      obtain ⟨inventory, hfold, hholds⟩ :=
        ih (fun earlier hearlier => hvalid earlier (by simp [hearlier])) hbefore
      obtain ⟨next, hinsert⟩ := insert_apart hholds fun earlier hearlier =>
        hclash earlier hearlier record (List.mem_singleton_self record)
      have hchecked : inventory.insertChecked before.length record = .ok next := by
        rw [insertChecked, hvalid record (by simp)]
        exact hinsert
      refine ⟨next, ?_, hholds.inserted (insert_ok hinsert)⟩
      rw [List.zipIdx_append, List.foldlM_append, hfold]
      show (inventory.insertChecked (0 + before.length) record >>= pure) = .ok next
      rw [Nat.zero_add, hchecked]
      rfl

/-! ### Aliases -/

/-- An alias passes its check if what it names is there and no alias before it is of the same
pair. -/
theorem check_alias_iff {before : List DnsAlias} {entry : DnsAlias} :
    inventory.checkAlias before entry = .ok () ↔
      ((∃ config ∈ inventory.dnsConfigs, config.id = entry.configId) ∧
        ∃ app ∈ inventory.apps, app.id = entry.appId) ∧
        ∀ earlier ∈ before, ¬ earlier.SamePair entry := by
  unfold checkAlias DnsAlias.SamePair
  split
  · simp_all
  · split
    · simp_all
    · split <;> simp_all

/-- Aliases pass their checks if each does, given those before it. -/
theorem check_aliases_iff {before entries : List DnsAlias} :
    inventory.checkAliases before entries = .ok () ↔
      (∀ entry ∈ entries, (∃ config ∈ inventory.dnsConfigs, config.id = entry.configId) ∧
        ∃ app ∈ inventory.apps, app.id = entry.appId) ∧
      (∀ earlier ∈ before, ∀ entry ∈ entries, ¬ earlier.SamePair entry) ∧
      entries.Pairwise fun first second => ¬ first.SamePair second := by
  induction entries generalizing before with
  | nil => simp [checkAliases]
  | cons entry rest ih =>
      have hstep : inventory.checkAliases before (entry :: rest) = .ok () ↔
          inventory.checkAlias before entry = .ok () ∧
            inventory.checkAliases (before ++ [entry]) rest = .ok () := by
        rw [checkAliases]
        cases hcheck : inventory.checkAlias before entry with
        | error error => exact ⟨nofun, nofun⟩
        | ok _ => exact ⟨fun h => ⟨rfl, h⟩, And.right⟩
      rw [hstep, ih, check_alias_iff]
      simp only [List.forall_mem_cons, List.forall_mem_append, List.pairwise_cons,
        List.mem_singleton, forall_eq]
      grind

/-- In an inventory that holds some records, an alias refers to what is there exactly if it does so
among the records. -/
theorem Holds.resolves_iff (h : inventory.Holds records) {entry : DnsAlias} :
    ((∃ config ∈ inventory.dnsConfigs, config.id = entry.configId) ∧
      ∃ app ∈ inventory.apps, app.id = entry.appId) ↔ Resolves records entry := by
  have hconfig (config : DnsConfig) :
      config ∈ inventory.dnsConfigs ↔ .dnsConfig config ∈ records :=
    Table.mem_iff .dnsConfigs (h.table .dnsConfigs)
  have happ (app : App) : app ∈ inventory.apps ↔ .app app ∈ records :=
    Table.mem_iff .apps (h.table .apps)
  simp only [Resolves, hconfig, happ]

/-- In an inventory that holds some records, the aliases pass exactly if each refers to records and
no two of them are of the same pair. -/
theorem Holds.aliases_iff (h : inventory.Holds records) :
    inventory.checkAliases [] inventory.dnsAliases = .ok () ↔
      (∀ entry, .dnsAlias entry ∈ records → Resolves records entry) ∧
        inventory.dnsAliases.Pairwise fun first second => ¬ first.SamePair second := by
  have hentry (entry : DnsAlias) : entry ∈ inventory.dnsAliases ↔ .dnsAlias entry ∈ records :=
    Table.mem_iff .dnsAliases (h.table .dnsAliases)
  rw [check_aliases_iff]
  simp only [List.not_mem_nil, false_implies, implies_true, true_and, h.resolves_iff, hentry]

/-! ### Acceptance -/

/-- An inventory is made by adding all records and checking the aliases. -/
theorem of_records_iff :
    ofRecords records = .ok inventory ↔
      records.zipIdx.foldlM
        (fun inventory (record, index) => inventory.insertChecked index record) empty =
          .ok inventory ∧ inventory.checkAliases [] inventory.dnsAliases = .ok () := by
  constructor
  · intro h
    obtain ⟨folded, hfold, hrest⟩ := bind_ok h
    obtain ⟨_, hcheck, hfolded⟩ := bind_ok hrest
    cases hfolded
    exact ⟨hfold, hcheck⟩
  · rintro ⟨hfold, hcheck⟩
    rw [ofRecords, hfold]
    show (inventory.checkAliases [] inventory.dnsAliases >>= fun _ => pure inventory) = _
    rw [hcheck]
    rfl

/-- Records of which an inventory was made do not clash. -/
theorem apart_of_records (hrecords : ofRecords records = .ok inventory) :
    records.Pairwise fun first second => ¬ first.Clash second := by
  have hids {α : Type} (kept : Table α) : records.Pairwise kept.Apart := by
    obtain ⟨-, hsound, hitems⟩ := kept.of_records hrecords
    rw [← kept.nodup_iff, ← hitems]
    exact hsound
  have hpairs := (check_aliases_iff.1 (of_records_iff.1 hrecords).2).2.2
  change (Table.dnsAliases.items inventory).Pairwise _ at hpairs
  rw [(Table.dnsAliases.of_records hrecords).2.2, List.pairwise_filterMap] at hpairs
  rw [List.pairwise_iff_forall_sublist]
  intro first second hsublist hclash
  have hid {α : Type} (kept : Table α) : kept.Apart first second :=
    List.pairwise_iff_forall_sublist.1 (hids kept) hsublist
  cases hclash with
  | node h => exact hid .nodes _ rfl _ rfl h
  | app h => exact hid .apps _ rfl _ rfl h
  | vnf h => exact hid .vnfs _ rfl _ rfl h
  | trafficPolicy h => exact hid .trafficPolicies _ rfl _ rfl h
  | clusterPolicy h => exact hid .clusterPolicies _ rfl _ rfl h
  | dnsConfig h => exact hid .dnsConfigs _ rfl _ rfl h
  | dnsAlias h => exact hid .dnsAliases _ rfl _ rfl h
  | pair h => exact List.pairwise_iff_forall_sublist.1 hpairs hsublist _ rfl _ rfl h

/-- An inventory holds the records that it was made of. -/
theorem holds_of_records (hrecords : ofRecords records = .ok inventory) :
    inventory.Holds records := by
  obtain ⟨folded, hfold, hholds⟩ :=
    Acceptable.folds (Table.nodes.of_records hrecords).1 (apart_of_records hrecords)
  rw [(of_records_iff.1 hrecords).1] at hfold
  cases hfold
  exact hholds

/-- An inventory can be made of records exactly if they are acceptable. -/
theorem accepts_iff : (∃ inventory, ofRecords records = .ok inventory) ↔ Acceptable records := by
  constructor
  · rintro ⟨inventory, hrecords⟩
    have haliases := (holds_of_records hrecords).aliases_iff.1 (of_records_iff.1 hrecords).2
    exact ⟨(Table.nodes.of_records hrecords).1, apart_of_records hrecords, haliases.1⟩
  · intro h
    obtain ⟨inventory, hfold, hholds⟩ := Acceptable.folds h.valid h.apart
    refine ⟨inventory, of_records_iff.2 ⟨hfold, hholds.aliases_iff.2 ⟨h.resolved, ?_⟩⟩⟩
    change (Table.dnsAliases.items inventory).Pairwise _
    rw [hholds.table, List.pairwise_filterMap]
    refine h.apart.imp fun hclash first hfirst second hsecond hpair => hclash ?_
    rw [Table.dnsAliases.pick_eq hfirst, Table.dnsAliases.pick_eq hsecond]
    exact .pair hpair

/-! ### The order of the records -/

/-- Whether records are acceptable does not depend on their order. -/
theorem Acceptable.perm (h : Acceptable records) (hperm : records.Perm others) :
    Acceptable others where
  valid record hrecord := h.valid record (hperm.mem_iff.2 hrecord)
  apart := (hperm.pairwise_iff fun hclash => mt Record.Clash.symm hclash).1 h.apart
  resolved entry hentry := by
    have hresolves := h.resolved entry (hperm.mem_iff.2 hentry)
    simpa only [Resolves, hperm.mem_iff] using hresolves

/-- Whether two inventories give the same answer to every question that has one answer, and the
same entries to every question that has several. -/
structure Alike (inventory other : Inventory) : Prop where
  workload : inventory.workload = other.workload
  policy : inventory.policy = other.policy
  nativePolicy : inventory.nativePolicy = other.nativePolicy
  dnsConfig : inventory.dnsConfig = other.dnsConfig
  node : inventory.node? = other.node?
  aliases (configId : String) :
    (inventory.dnsAliasesOf configId).Perm (other.dnsAliasesOf configId)
  targets (nodeId : String) : (inventory.targetsOf nodeId).Perm (other.targetsOf nodeId)

/-- The aliases of a configuration are those among the records, in their order. -/
theorem Holds.aliases_of (h : inventory.Holds records) (configId : String) :
    inventory.dnsAliasesOf configId = records.filterMap (Record.aliasOf? configId) := by
  change (Table.dnsAliases.items inventory).filter _ = _
  rw [h.table, List.filter_filterMap]
  congr
  funext record
  cases record with
  | dnsAlias entry => simp [Table.dnsAliases, Record.aliasOf?, Option.filter]
  | _ => rfl

/-- The addresses of a node are those among the records, in their order. -/
theorem Holds.targets_of (h : inventory.Holds records) (nodeId : String) :
    inventory.targetsOf nodeId = records.filterMap (Record.targetOf? nodeId) := by
  rw [targetsOf, h.targets, List.filter_filterMap, List.map_filterMap]
  congr
  funext record
  cases record with
  | target entry => simp [Record.targetOf?, Option.filter]
  | _ => rfl

/-- Inventories of the same records in another order are alike. -/
theorem Alike.of_perm (hrecords : ofRecords records = .ok inventory)
    (hothers : ofRecords others = .ok other) (h : records.Perm others) : Alike inventory other where
  workload := by
    funext id
    have happs : inventory.apps.find? (·.id == id) = other.apps.find? (·.id == id) :=
      Table.apps.find_perm hrecords hothers h id
    have hvnfs : inventory.vnfs.find? (·.id == id) = other.vnfs.find? (·.id == id) :=
      Table.vnfs.find_perm hrecords hothers h id
    rw [Inventory.workload, Inventory.workload, find, find, happs, hvnfs]
  policy := by
    funext id
    have hnative : inventory.trafficPolicies.find? (·.id == id) =
        other.trafficPolicies.find? (·.id == id) :=
      Table.trafficPolicies.find_perm hrecords hothers h id
    have hcluster : inventory.clusterPolicies.find? (·.id == id) =
        other.clusterPolicies.find? (·.id == id) :=
      Table.clusterPolicies.find_perm hrecords hothers h id
    rw [Inventory.policy, Inventory.policy, find, find, hnative, hcluster]
  nativePolicy := by
    funext id
    have hnative : inventory.trafficPolicies.find? (·.id == id) =
        other.trafficPolicies.find? (·.id == id) :=
      Table.trafficPolicies.find_perm hrecords hothers h id
    rw [Inventory.nativePolicy, Inventory.nativePolicy, find, find, hnative]
  dnsConfig := by
    funext id
    have hconfigs : inventory.dnsConfigs.find? (·.id == id) =
        other.dnsConfigs.find? (·.id == id) :=
      Table.dnsConfigs.find_perm hrecords hothers h id
    rw [Inventory.dnsConfig, Inventory.dnsConfig, find, find, hconfigs]
  node := funext fun id => Table.nodes.find_perm hrecords hothers h id
  aliases configId := by
    rw [(holds_of_records hrecords).aliases_of, (holds_of_records hothers).aliases_of]
    exact h.filterMap _
  targets nodeId := by
    rw [(holds_of_records hrecords).targets_of, (holds_of_records hothers).targets_of]
    exact h.filterMap _

/-- An inventory is made of records exactly if each passes its check, no two of them clash, and the
aliases refer to records of the list. It answers with the aliases and addresses of the list in their
order. In another order, the records are taken again, and the two inventories are alike. -/
theorem acceptance (records : List Record) :
    ((∃ inventory, ofRecords records = .ok inventory) ↔ Acceptable records) ∧
      (∀ inventory, ofRecords records = .ok inventory → ∀ id,
        inventory.dnsAliasesOf id = records.filterMap (Record.aliasOf? id) ∧
          inventory.targetsOf id = records.filterMap (Record.targetOf? id)) ∧
      ∀ others, records.Perm others →
        ((∃ inventory, ofRecords records = .ok inventory) ↔
          ∃ other, ofRecords others = .ok other) ∧
        ∀ inventory other, ofRecords records = .ok inventory → ofRecords others = .ok other →
          Alike inventory other := by
  refine ⟨accepts_iff, fun inventory hrecords id => ?_, fun others hperm => ⟨?_, ?_⟩⟩
  · exact ⟨(holds_of_records hrecords).aliases_of id, (holds_of_records hrecords).targets_of id⟩
  · rw [accepts_iff, accepts_iff]
    exact ⟨fun h => h.perm hperm, fun h => h.perm hperm.symm⟩
  · exact fun inventory other hrecords hothers => .of_perm hrecords hothers hperm

namespace Sample

/-- An application. -/
def app : App :=
  ⟨"7c9e6679-7425-40de-944b-e07fc1f90ae7", .container, "cam", "1.0", "acme", "camera", 1, 64, [],
    "https://images.example.net/cam.tar"⟩

/-- A DNS configuration with a forwarder. -/
def config : DnsConfig :=
  ⟨"d4c3b2a1-0f9e-4d8c-8b7a-6f5e4d3c2b1a", "office", [], [⟨"upstream", "resolver", "192.0.2.53"⟩]⟩

/-- The application, published under the configuration. -/
def entry : DnsAlias :=
  ⟨"0e8f6c1a-2b3d-4e5f-9a8b-7c6d5e4f3a2b", config.id, "camera", "the camera", app.id⟩

/-- An address of a node. -/
def target (address : String) : NodeTarget :=
  ⟨"5a0b1c2d-3e4f-4a5b-8c6d-7e8f9a0b1c2d", "a3c1e2f4-5b6d-4e7f-8a9b-0c1d2e3f4a5b", address⟩

/-- An alias and two addresses, then what the alias refers to. -/
def scrambled : List Record :=
  [.dnsAlias entry, .target (target "192.0.2.1"), .target (target "192.0.2.2"), .dnsConfig config,
    .app app]

end Sample

/-- An alias may come before what it refers to. In the reverse order, the records make an inventory
that differs from the first one only in the order of the addresses. -/
theorem acceptance_alias_first :
    ∃ inventory other, ofRecords Sample.scrambled = .ok inventory ∧
      ofRecords Sample.scrambled.reverse = .ok other ∧ inventory ≠ other ∧ Alike inventory other := by
  let inventory : Inventory :=
    ⟨[], [Sample.target "192.0.2.1", Sample.target "192.0.2.2"], [Sample.app], [], [], [],
      [Sample.config], [Sample.entry]⟩
  have hrecords : ofRecords Sample.scrambled = .ok inventory := by decide +kernel
  have hothers : ofRecords Sample.scrambled.reverse =
      .ok { inventory with targets := inventory.targets.reverse } := by
    decide +kernel
  obtain ⟨-, -, horder⟩ := acceptance Sample.scrambled
  obtain ⟨-, halike⟩ := horder _ Sample.scrambled.reverse_perm.symm
  exact ⟨_, _, hrecords, hothers, by decide, halike _ _ hrecords hothers⟩

end Inventory

end EdgeFleet
