import EdgeFleet.Proofs.Inventory.Retrieval

/-!
# Records of one table with one ID

Records are stored in tables under their IDs, and a list with a duplicate is to be refused. What is
compared on the way into an inventory are the IDs of records of one kind: not those of addresses and
placements, nor the ID of a native policy with that of one for the cluster, though they share a
table. `ids_unique_iff` says that these are the only duplicates that an accepted list can have, and
that none of them is refused for its ID.
-/

namespace EdgeFleet

namespace Record

/-- Whether two records have the same place: one table and one ID. -/
def Duplicates (first second : Record) : Prop :=
  first.table = second.table ∧ first.id = second.id

instance (first second : Record) : Decidable (first.Duplicates second) :=
  inferInstanceAs (Decidable (_ ∧ _))

/-- Records of one table whose IDs are not compared. -/
inductive Uncompared : Record → Record → Prop
  | target (first second : NodeTarget) : Uncompared (.target first) (.target second)
  | placement (family : WorkloadClass) (first second : Placement) :
      Uncompared (.placement family first) (.placement family second)
  | nativeFirst (policy : TrafficPolicy) (other : ClusterPolicy) :
      Uncompared (.trafficPolicy policy) (.clusterPolicy other)
  | clusterFirst (policy : ClusterPolicy) (other : TrafficPolicy) :
      Uncompared (.clusterPolicy policy) (.trafficPolicy other)

variable {first second : Record}

/-- Placements are in tables of their own. -/
@[simp] theorem table_ne_placement {name : String} (h : name ∉ ["nodes_apps", "nodes_vnfs"])
    (family : WorkloadClass) (e : Placement) : name ≠ (placement family e).table := by
  rintro rfl
  cases family <;> exact h (by simp [table])

/-- Each family of workloads has a table for its placements. -/
theorem table_placement_inj {family other : WorkloadClass} {e placed : Placement}
    (h : (placement family e).table = (placement other placed).table) : family = other := by
  cases family <;> cases other <;> first | rfl | simp [table] at h

/-- Records whose IDs are not compared are of one table. -/
theorem Uncompared.table_eq (h : first.Uncompared second) : first.table = second.table := by
  cases h with
  | placement family _ _ => cases family <;> rfl
  | _ => rfl

/-- Duplicates clash, or their IDs are not compared. -/
theorem Duplicates.clash_or (h : first.Duplicates second) :
    first.Clash second ∨ first.Uncompared second := by
  obtain ⟨htable, hid⟩ := h
  cases first <;> cases second
  case node.node => exact .inl (.node hid)
  case target.target e other => exact .inr (.target e other)
  case app.app => exact .inl (.app hid)
  case vnf.vnf => exact .inl (.vnf hid)
  case placement.placement family e other placed =>
      obtain rfl := table_placement_inj htable
      exact .inr (.placement family e placed)
  case trafficPolicy.trafficPolicy => exact .inl (.trafficPolicy hid)
  case trafficPolicy.clusterPolicy e other => exact .inr (.nativeFirst e other)
  case clusterPolicy.trafficPolicy e other => exact .inr (.clusterFirst e other)
  case clusterPolicy.clusterPolicy => exact .inl (.clusterPolicy hid)
  case dnsConfig.dnsConfig => exact .inl (.dnsConfig hid)
  case dnsAlias.dnsAlias => exact .inl (.dnsAlias hid)
  -- No other two kinds of records have a table in common.
  all_goals first
    | exact absurd htable (table_ne_placement (by simp [table]) _ _)
    | exact absurd htable.symm (table_ne_placement (by simp [table]) _ _)
    | simp [table] at htable

end Record

namespace Inventory

variable {inventory : Inventory} {records : List Record}

/-- Duplicates of which an inventory was made are records whose IDs are not compared. -/
theorem uncompared_of_duplicates (hrecords : ofRecords records = .ok inventory) :
    records.Pairwise fun first second => first.Duplicates second → first.Uncompared second :=
  (apart_of_records hrecords).imp fun hapart hduplicates =>
    hduplicates.clash_or.resolve_left hapart

/-- A valid record that clashes with none of an accepted list is taken too, unless it is an alias,
which has to refer to something. -/
theorem Acceptable.concat (h : Acceptable records) {record : Record}
    (hvalid : record.check = .ok ()) (hapart : ∀ other ∈ records, ¬ other.Clash record)
    (halias : ∀ entry, record ≠ .dnsAlias entry) : Acceptable (records ++ [record]) where
  valid := List.forall_mem_append.2 ⟨h.valid, List.forall_mem_singleton.2 hvalid⟩
  apart := by
    refine List.pairwise_append.2 ⟨h.apart, List.pairwise_singleton _ _, ?_⟩
    intro other hother last hlast
    obtain rfl := List.mem_singleton.1 hlast
    exact hapart other hother
  resolved entry hentry := by
    rcases List.mem_append.1 hentry with hentry | hentry
    · obtain ⟨⟨config, hconfig, hid⟩, app, happ, happid⟩ := h.resolved entry hentry
      exact ⟨⟨config, List.mem_append_left _ hconfig, hid⟩,
        app, List.mem_append_left _ happ, happid⟩
    · exact absurd (List.mem_singleton.1 hentry).symm (halias entry)

/-- The records of an accepted list have a table and an ID each to themselves exactly if no two
whose IDs are not compared share one: these are all the duplicates that there can be. A valid record
that stands to one of the list in this way is taken, whatever its ID, if it clashes with none. -/
theorem ids_unique_iff (hrecords : ofRecords records = .ok inventory) :
    (records.Pairwise fun first second => first.Duplicates second → first.Uncompared second) ∧
      ((records.Pairwise fun first second => ¬ first.Duplicates second) ↔
        records.Pairwise fun first second => first.Uncompared second → first.id ≠ second.id) ∧
      ∀ record : Record, record.check = .ok () → (∀ other ∈ records, ¬ other.Clash record) →
        (∃ other ∈ records, other.Uncompared record) →
          ∃ next, ofRecords (records ++ [record]) = .ok next := by
  have honly := uncompared_of_duplicates hrecords
  refine ⟨honly, ⟨fun h => h.imp ?_, fun h => (honly.and h).imp ?_⟩, ?_⟩
  · exact fun hunique huncompared hid => hunique ⟨huncompared.table_eq, hid⟩
  · exact fun ⟨huncompared, hids⟩ hduplicates => hids (huncompared hduplicates) hduplicates.2
  · rintro record hvalid hapart ⟨other, -, huncompared⟩
    refine accepts_iff.2 ((accepts_iff.1 ⟨inventory, hrecords⟩).concat hvalid hapart ?_)
    rintro entry rfl
    cases huncompared

namespace Sample

/-- A workload on a node. -/
def placement : Placement :=
  ⟨"5a0b1c2d-3e4f-4a5b-8c6d-7e8f9a0b1c2d", "a3c1e2f4-5b6d-4e7f-8a9b-0c1d2e3f4a5b", app.id, none⟩

/-- Records of all the kinds whose IDs are not compared, in pairs that share an ID. -/
def sharing : List Record :=
  [.target (target "192.0.2.1"), .target (target "192.0.2.2"),
    .placement .app placement, .placement .app { placement with pending := some "start" },
    .trafficPolicy (native app.id), .clusterPolicy (cluster app.id)]

end Sample

/-- Policies of both kinds with an ID each are no duplicates, and neither are the workloads before
them. The policy for the cluster is taken under the ID of the native one as well. -/
theorem ids_unique_mixed :
    ((Sample.mixed Sample.config.id Sample.app.id Sample.entry.id).Pairwise
        fun first second => ¬ first.Duplicates second) ∧
      ∃ next, ofRecords (Sample.mixed Sample.config.id Sample.app.id Sample.entry.id ++
        [.clusterPolicy (Sample.cluster Sample.app.id)]) = .ok next := by
  have hrecords : ofRecords (Sample.mixed Sample.config.id Sample.app.id Sample.entry.id) =
      .ok ⟨[], [], [Sample.app], [Sample.vnf Sample.config.id], [Sample.native Sample.app.id],
        [Sample.cluster Sample.entry.id], [], []⟩ := by
    decide +kernel
  obtain ⟨-, hunique, htaken⟩ := ids_unique_iff hrecords
  refine ⟨hunique.2 (List.pairwise_of_forall_mem_list ?_), htaken _ (by decide +kernel) ?_ ?_⟩
  · intro first hfirst second hsecond huncompared hid
    cases huncompared with
    | target | placement => simp [Sample.mixed] at hfirst
    | nativeFirst | clusterFirst =>
        simp [Sample.mixed] at hfirst hsecond
        subst hfirst hsecond
        exact absurd hid (by decide)
  · intro other hother hclash
    cases hclash with
    | clusterPolicy hid =>
        simp [Sample.mixed] at hother
        subst hother
        exact absurd hid (by decide)
  · exact ⟨.trafficPolicy (Sample.native Sample.app.id), by simp [Sample.mixed],
      .nativeFirst _ _⟩

/-- An inventory is made of two addresses with the same ID, two placements with the same ID and
policies of both kinds with the same ID. -/
theorem ids_shared :
    (∃ inventory, ofRecords Sample.sharing = .ok inventory) ∧
      ¬ Sample.sharing.Pairwise fun first second => ¬ first.Duplicates second := by
  refine ⟨⟨⟨[], [Sample.target "192.0.2.1", Sample.target "192.0.2.2"], [], [],
    [Sample.native Sample.app.id], [Sample.cluster Sample.app.id], [], []⟩, by decide +kernel⟩, ?_⟩
  decide

end Inventory

end EdgeFleet
