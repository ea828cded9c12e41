import EdgeFleet.Proofs.Inventory.Acceptance

/-!
# Finding records again

What the lookups of an inventory make of the records that it was made of. Workloads of both kinds
are looked up by one ID, and so are policies of both kinds, while an ID is kept apart only within a
kind. A record is found by its ID exactly if none of the other kind comes before it (`retrieval`).
-/

namespace EdgeFleet

/-- Records of which the first is found in place of the second: an application and a network
function with the same ID, or a native policy and one for the cluster. -/
inductive Record.Hides : Record → Record → Prop
  | app {app : App} {vnf : Vnf} (h : app.id = vnf.id) : Hides (.app app) (.vnf vnf)
  | native {policy : TrafficPolicy} {hidden : ClusterPolicy} (h : policy.id = hidden.id) :
      Hides (.trafficPolicy policy) (.clusterPolicy hidden)

namespace Inventory

/-- Whether the lookup for a kind of records gives a record. There is none for placements. -/
def Retrieves (inventory : Inventory) : Record → Prop
  | .node node => inventory.node? node.id = some node
  | .target entry => entry.target ∈ inventory.targetsOf entry.nodeId
  | .app app => inventory.workload app.id = .ok (.app app)
  | .vnf vnf => inventory.workload vnf.id = .ok (.vnf vnf)
  | .placement _ _ => True
  | .trafficPolicy policy =>
      inventory.policy policy.id = .ok (.native policy) ∧
        inventory.nativePolicy policy.id = .ok policy
  | .clusterPolicy policy => inventory.policy policy.id = .ok (.cluster policy)
  | .dnsConfig config => inventory.dnsConfig config.id = .ok config
  | .dnsAlias entry => entry ∈ inventory.dnsAliasesOf entry.configId

variable {inventory : Inventory} {records : List Record}
  (hrecords : ofRecords records = .ok inventory)
include hrecords

namespace Table

variable {α : Type} (kept : Table α)

/-- What there is a record of is found by its ID. -/
theorem find_record {item : α} (hitem : kept.record item ∈ records) :
    (kept.items inventory).find? (fun found => kept.idOf found == kept.idOf item) = some item :=
  (kept.find_iff hrecords).2 ⟨hitem, rfl⟩

/-- Nothing is found by an ID exactly if there is no record with this ID. -/
theorem find_none_iff {id : String} :
    (kept.items inventory).find? (fun found => kept.idOf found == id) = none ↔
      ∀ item, kept.record item ∈ records → kept.idOf item ≠ id := by
  rw [Option.eq_none_iff_forall_ne_some]
  refine forall_congr' fun item => ?_
  rw [ne_eq, kept.find_iff hrecords, not_and]

end Table

/-- A network function is found by its ID exactly if no application has this ID. -/
theorem workload_vnf_iff {vnf : Vnf} (h : .vnf vnf ∈ records) :
    inventory.workload vnf.id = .ok (.vnf vnf) ↔
      ∀ app, .app app ∈ records → app.id ≠ vnf.id := by
  have hvnf : inventory.vnfs.find? (·.id == vnf.id) = some vnf :=
    Table.vnfs.find_record hrecords h
  have happs : inventory.apps.find? (·.id == vnf.id) = none ↔
      ∀ app, .app app ∈ records → app.id ≠ vnf.id :=
    Table.apps.find_none_iff hrecords
  rw [← happs, workload, find, hvnf]
  cases inventory.apps.find? fun found => found.id == vnf.id with
  | none => exact ⟨fun _ => rfl, fun _ => rfl⟩
  | some app =>
      constructor <;> intro hfound <;> cases hfound

/-- A policy for the cluster is found by its ID exactly if no native policy has this ID. -/
theorem policy_cluster_iff {policy : ClusterPolicy} (h : .clusterPolicy policy ∈ records) :
    inventory.policy policy.id = .ok (.cluster policy) ↔
      ∀ native, .trafficPolicy native ∈ records → native.id ≠ policy.id := by
  have hcluster : inventory.clusterPolicies.find? (·.id == policy.id) = some policy :=
    Table.clusterPolicies.find_record hrecords h
  have hnative : inventory.trafficPolicies.find? (·.id == policy.id) = none ↔
      ∀ native, .trafficPolicy native ∈ records → native.id ≠ policy.id :=
    Table.trafficPolicies.find_none_iff hrecords
  rw [← hnative, Inventory.policy, find, hcluster]
  cases inventory.trafficPolicies.find? fun found => found.id == policy.id with
  | none => exact ⟨fun _ => rfl, fun _ => rfl⟩
  | some native =>
      constructor <;> intro hfound <;> cases hfound

omit hrecords in
/-- Records of a kind that no other kind hides. -/
theorem retrieves_iff_of_visible {record : Record} (h : inventory.Retrieves record)
    (hvisible : ∀ other : Record, ¬ other.Hides record) :
    inventory.Retrieves record ↔ ∀ other ∈ records, ¬ other.Hides record :=
  ⟨fun _ other _ => hvisible other, fun _ => h⟩

/-- Of an inventory that was made of some records, a record of the list is given by the lookup for
its kind exactly if no record of the list hides it. Only network functions can be hidden, by an
application with their ID, and policies for the cluster, by a native policy with theirs. -/
theorem retrieval {record : Record} (h : record ∈ records) :
    inventory.Retrieves record ↔ ∀ other ∈ records, ¬ other.Hides record := by
  have hholds := holds_of_records hrecords
  cases record with
  | node node =>
      refine retrieves_iff_of_visible (Table.nodes.find_record hrecords h) ?_
      rintro other ⟨⟩
  | target entry =>
      refine retrieves_iff_of_visible ?_ (by rintro other ⟨⟩)
      rw [Retrieves, hholds.targets_of, List.mem_filterMap]
      exact ⟨_, h, if_pos rfl⟩
  | app app =>
      refine retrieves_iff_of_visible ?_ (by rintro other ⟨⟩)
      have hfound : inventory.apps.find? (·.id == app.id) = some app :=
        Table.apps.find_record hrecords h
      rw [Retrieves, workload, hfound]
  | vnf vnf =>
      rw [Retrieves, workload_vnf_iff hrecords h]
      constructor
      · intro happs other hother hhides
        cases hhides with
        | app hid => exact happs _ hother hid
      · exact fun hhides app happ hid => hhides _ happ (.app hid)
  | placement family entry =>
      refine retrieves_iff_of_visible trivial ?_
      rintro other ⟨⟩
  | trafficPolicy policy =>
      refine retrieves_iff_of_visible ?_ (by rintro other ⟨⟩)
      have hfound : inventory.trafficPolicies.find? (·.id == policy.id) = some policy :=
        Table.trafficPolicies.find_record hrecords h
      constructor
      · rw [Inventory.policy, hfound]
      · rw [nativePolicy, find, hfound]
  | clusterPolicy policy =>
      rw [Retrieves, policy_cluster_iff hrecords h]
      constructor
      · intro hnative other hother hhides
        cases hhides with
        | native hid => exact hnative _ hother hid
      · exact fun hhides native hmem hid => hhides _ hmem (.native hid)
  | dnsConfig config =>
      refine retrieves_iff_of_visible ?_ (by rintro other ⟨⟩)
      have hfound : inventory.dnsConfigs.find? (·.id == config.id) = some config :=
        Table.dnsConfigs.find_record hrecords h
      rw [Retrieves, Inventory.dnsConfig, find, hfound]
  | dnsAlias entry =>
      refine retrieves_iff_of_visible ?_ (by rintro other ⟨⟩)
      rw [Retrieves, hholds.aliases_of, List.mem_filterMap]
      exact ⟨_, h, if_pos rfl⟩

omit hrecords

namespace Sample

/-- A network function. -/
def vnf (id : String) : Vnf :=
  ⟨id, .vm, "upf", "2.0", "acme", "", 4, 4096, "https://images.example.net/upf.qcow2"⟩

/-- A native policy that rewrites the destination of all traffic. -/
def native (id : String) : TrafficPolicy :=
  let anything : Selector := ⟨"anything", some ⟨[]⟩, none, none⟩
  ⟨id, [⟨"to the cache", 1, some anything, some anything,
    some ⟨"cache", "accept", none, some ⟨"192.0.2.80", 80⟩⟩⟩]⟩

/-- A policy for the cluster that lets all traffic in. -/
def cluster (id : String) : ClusterPolicy :=
  ⟨id, "open", [⟨"all", [], []⟩], []⟩

/-- The application, then a network function, then policies of both kinds. -/
def mixed (vnfId nativeId clusterId : String) : List Record :=
  [.app app, .vnf (vnf vnfId), .trafficPolicy (native nativeId),
    .clusterPolicy (cluster clusterId)]

end Sample

/-- With an ID for each of them, workloads and policies of both kinds are found. -/
theorem retrieval_apart :
    ∃ inventory, ofRecords (Sample.mixed Sample.config.id Sample.app.id Sample.entry.id) =
      .ok inventory ∧ ∀ record ∈ Sample.mixed Sample.config.id Sample.app.id Sample.entry.id,
        inventory.Retrieves record := by
  let inventory : Inventory :=
    ⟨[], [], [Sample.app], [Sample.vnf Sample.config.id], [Sample.native Sample.app.id],
      [Sample.cluster Sample.entry.id], [], []⟩
  have hrecords : ofRecords (Sample.mixed Sample.config.id Sample.app.id Sample.entry.id) =
      .ok inventory := by
    decide +kernel
  refine ⟨inventory, hrecords, fun record hrecord => (retrieval hrecords hrecord).2 ?_⟩
  intro other hother hhides
  cases hhides with
  | app hid =>
      simp [Sample.mixed] at hother hrecord
      subst hother hrecord
      exact absurd hid (by decide)
  | native hid =>
      simp [Sample.mixed] at hother hrecord
      subst hother hrecord
      exact absurd hid (by decide)

/-- An ID may be shared by workloads of both kinds and by policies of both kinds. Then the
application and the native policy are found, and the other two are not. -/
theorem retrieval_shared :
    ∃ inventory, ofRecords (Sample.mixed Sample.app.id Sample.app.id Sample.app.id) =
      .ok inventory ∧
        inventory.workload Sample.app.id = .ok (.app Sample.app) ∧
        inventory.policy Sample.app.id = .ok (.native (Sample.native Sample.app.id)) ∧
        ¬ inventory.Retrieves (.vnf (Sample.vnf Sample.app.id)) ∧
        ¬ inventory.Retrieves (.clusterPolicy (Sample.cluster Sample.app.id)) := by
  let inventory : Inventory :=
    ⟨[], [], [Sample.app], [Sample.vnf Sample.app.id], [Sample.native Sample.app.id],
      [Sample.cluster Sample.app.id], [], []⟩
  exact ⟨inventory, by decide +kernel, rfl, rfl, by unfold Retrieves; decide,
    by unfold Retrieves; decide⟩

end Inventory

end EdgeFleet
