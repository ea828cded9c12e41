import EdgeFleet.Inventory
import EdgeFleet.Proofs.Check
import Mathlib.Data.List.Nodup

/-!
# What inventories keep

What is in an inventory that was made of a list of records. `Inserted` lists what adding a record
comes to, kind by kind. A `Table` is a kind of records that is kept by ID; `Table.of_records` is the
main result: a table holds the records of its kind in the order in which they were given, and no two
of them share an ID.
-/

namespace EdgeFleet

namespace Inventory

variable {α : Type} {idOf : α → String} {table : String} {item : α} {items after : List α}

/-- None of some items has the ID of another one. -/
def New (idOf : α → String) (item : α) (items : List α) : Prop :=
  ∀ other ∈ items, idOf other ≠ idOf item

/-- An item is added only if its ID is new. -/
theorem add_ok (h : add idOf table item items = .ok after) :
    New idOf item items ∧ after = items ++ [item] := by
  unfold add at h
  split at h
  · cases h
  · next hnone =>
      refine ⟨fun other hother hid => hnone ?_, (Except.ok.inj h).symm⟩
      exact List.any_eq_true.2 ⟨other, hother, beq_iff_eq.2 hid⟩

/-- What is made of the items after one is added is made of the items with the new one behind
them. -/
theorem add_bind_ok {β : Type} {next : List α → β} {result : β}
    (h : (add idOf table item items >>= fun all => pure (next all)) = .ok result) :
    New idOf item items ∧ result = next (items ++ [item]) := by
  obtain ⟨all, hadd, hnext⟩ := bind_ok h
  obtain ⟨hnew, rfl⟩ := add_ok hadd
  exact ⟨hnew, (Except.ok.inj hnext).symm⟩

/-- What adding a record to an inventory leads to, for each kind of records. -/
inductive Inserted (inventory : Inventory) : Record → Inventory → Prop
  | node {e : Node} (hnew : New Node.id e inventory.nodes) :
      Inserted inventory (.node e) { inventory with nodes := inventory.nodes ++ [e] }
  | target (e : NodeTarget) :
      Inserted inventory (.target e) { inventory with targets := inventory.targets ++ [e] }
  | app {e : App} (hnew : New App.id e inventory.apps) :
      Inserted inventory (.app e) { inventory with apps := inventory.apps ++ [e] }
  | vnf {e : Vnf} (hnew : New Vnf.id e inventory.vnfs) :
      Inserted inventory (.vnf e) { inventory with vnfs := inventory.vnfs ++ [e] }
  | placement (family : WorkloadClass) (e : Placement) :
      Inserted inventory (.placement family e) inventory
  | trafficPolicy {e : TrafficPolicy} (hnew : New TrafficPolicy.id e inventory.trafficPolicies) :
      Inserted inventory (.trafficPolicy e)
        { inventory with trafficPolicies := inventory.trafficPolicies ++ [e] }
  | clusterPolicy {e : ClusterPolicy} (hnew : New ClusterPolicy.id e inventory.clusterPolicies) :
      Inserted inventory (.clusterPolicy e)
        { inventory with clusterPolicies := inventory.clusterPolicies ++ [e] }
  | dnsConfig {e : DnsConfig} (hnew : New DnsConfig.id e inventory.dnsConfigs) :
      Inserted inventory (.dnsConfig e)
        { inventory with dnsConfigs := inventory.dnsConfigs ++ [e] }
  | dnsAlias {e : DnsAlias} (hnew : New DnsAlias.id e inventory.dnsAliases) :
      Inserted inventory (.dnsAlias e)
        { inventory with dnsAliases := inventory.dnsAliases ++ [e] }

variable {inventory next : Inventory} {record : Record}

/-- Adding a record leads to what is listed for its kind. -/
theorem insert_ok (h : inventory.insert record = .ok next) : Inserted inventory record next := by
  cases record with
  | target e =>
      cases h
      exact .target e
  | placement family e =>
      cases h
      exact .placement family e
  | node e =>
      obtain ⟨hnew, rfl⟩ := add_bind_ok h
      exact .node hnew
  | app e =>
      obtain ⟨hnew, rfl⟩ := add_bind_ok h
      exact .app hnew
  | vnf e =>
      obtain ⟨hnew, rfl⟩ := add_bind_ok h
      exact .vnf hnew
  | trafficPolicy e =>
      obtain ⟨hnew, rfl⟩ := add_bind_ok h
      exact .trafficPolicy hnew
  | clusterPolicy e =>
      obtain ⟨hnew, rfl⟩ := add_bind_ok h
      exact .clusterPolicy hnew
  | dnsConfig e =>
      obtain ⟨hnew, rfl⟩ := add_bind_ok h
      exact .dnsConfig hnew
  | dnsAlias e =>
      obtain ⟨hnew, rfl⟩ := add_bind_ok h
      exact .dnsAlias hnew

/-- A record that is checked before it is added has passed. -/
theorem insert_checked_ok {index : Nat} (h : inventory.insertChecked index record = .ok next) :
    record.check = .ok () ∧ Inserted inventory record next := by
  unfold insertChecked at h
  split at h
  · cases h
  · next hcheck => exact ⟨hcheck, insert_ok h⟩

/-- A kind of records that inventories keep by ID: where they are kept, and which records are of
this kind. -/
structure Table (α : Type) where
  items : Inventory → List α
  record : α → Record
  pick : Record → Option α
  idOf : α → String
  pick_eq : ∀ {entry item}, pick entry = some item → entry = record item
  pick_record : ∀ item, pick (record item) = some item
  items_empty : items empty = []
  inserted : ∀ {inventory record next}, Inserted inventory record next →
    items next = items inventory ++ (pick record).toList ∧
      ∀ item, pick record = some item → New idOf item (items inventory)

namespace Table

/-- The nodes. -/
def nodes : Table Node where
  items := Inventory.nodes
  record := .node
  pick
    | .node e => some e
    | _ => none
  idOf := Node.id
  pick_eq := by
    intro entry item h
    cases entry with
    | node e => exact congrArg _ (Option.some.inj h)
    | _ => cases h
  pick_record := fun _ => rfl
  items_empty := rfl
  inserted := by
    intro inventory record next h
    cases h with
    | node hnew => exact ⟨rfl, fun _ heq => Option.some.inj heq ▸ hnew⟩
    | _ => exact ⟨(List.append_nil _).symm, fun _ heq => nomatch heq⟩

/-- The applications. -/
def apps : Table App where
  items := Inventory.apps
  record := .app
  pick
    | .app e => some e
    | _ => none
  idOf := App.id
  pick_eq := by
    intro entry item h
    cases entry with
    | app e => exact congrArg _ (Option.some.inj h)
    | _ => cases h
  pick_record := fun _ => rfl
  items_empty := rfl
  inserted := by
    intro inventory record next h
    cases h with
    | app hnew => exact ⟨rfl, fun _ heq => Option.some.inj heq ▸ hnew⟩
    | _ => exact ⟨(List.append_nil _).symm, fun _ heq => nomatch heq⟩

/-- The network functions. -/
def vnfs : Table Vnf where
  items := Inventory.vnfs
  record := .vnf
  pick
    | .vnf e => some e
    | _ => none
  idOf := Vnf.id
  pick_eq := by
    intro entry item h
    cases entry with
    | vnf e => exact congrArg _ (Option.some.inj h)
    | _ => cases h
  pick_record := fun _ => rfl
  items_empty := rfl
  inserted := by
    intro inventory record next h
    cases h with
    | vnf hnew => exact ⟨rfl, fun _ heq => Option.some.inj heq ▸ hnew⟩
    | _ => exact ⟨(List.append_nil _).symm, fun _ heq => nomatch heq⟩

/-- The traffic policies for nodes. -/
def trafficPolicies : Table TrafficPolicy where
  items := Inventory.trafficPolicies
  record := .trafficPolicy
  pick
    | .trafficPolicy e => some e
    | _ => none
  idOf := TrafficPolicy.id
  pick_eq := by
    intro entry item h
    cases entry with
    | trafficPolicy e => exact congrArg _ (Option.some.inj h)
    | _ => cases h
  pick_record := fun _ => rfl
  items_empty := rfl
  inserted := by
    intro inventory record next h
    cases h with
    | trafficPolicy hnew => exact ⟨rfl, fun _ heq => Option.some.inj heq ▸ hnew⟩
    | _ => exact ⟨(List.append_nil _).symm, fun _ heq => nomatch heq⟩

/-- The traffic policies for the cluster. -/
def clusterPolicies : Table ClusterPolicy where
  items := Inventory.clusterPolicies
  record := .clusterPolicy
  pick
    | .clusterPolicy e => some e
    | _ => none
  idOf := ClusterPolicy.id
  pick_eq := by
    intro entry item h
    cases entry with
    | clusterPolicy e => exact congrArg _ (Option.some.inj h)
    | _ => cases h
  pick_record := fun _ => rfl
  items_empty := rfl
  inserted := by
    intro inventory record next h
    cases h with
    | clusterPolicy hnew => exact ⟨rfl, fun _ heq => Option.some.inj heq ▸ hnew⟩
    | _ => exact ⟨(List.append_nil _).symm, fun _ heq => nomatch heq⟩

/-- The DNS configurations. -/
def dnsConfigs : Table DnsConfig where
  items := Inventory.dnsConfigs
  record := .dnsConfig
  pick
    | .dnsConfig e => some e
    | _ => none
  idOf := DnsConfig.id
  pick_eq := by
    intro entry item h
    cases entry with
    | dnsConfig e => exact congrArg _ (Option.some.inj h)
    | _ => cases h
  pick_record := fun _ => rfl
  items_empty := rfl
  inserted := by
    intro inventory record next h
    cases h with
    | dnsConfig hnew => exact ⟨rfl, fun _ heq => Option.some.inj heq ▸ hnew⟩
    | _ => exact ⟨(List.append_nil _).symm, fun _ heq => nomatch heq⟩

/-- The aliases. -/
def dnsAliases : Table DnsAlias where
  items := Inventory.dnsAliases
  record := .dnsAlias
  pick
    | .dnsAlias e => some e
    | _ => none
  idOf := DnsAlias.id
  pick_eq := by
    intro entry item h
    cases entry with
    | dnsAlias e => exact congrArg _ (Option.some.inj h)
    | _ => cases h
  pick_record := fun _ => rfl
  items_empty := rfl
  inserted := by
    intro inventory record next h
    cases h with
    | dnsAlias hnew => exact ⟨rfl, fun _ heq => Option.some.inj heq ▸ hnew⟩
    | _ => exact ⟨(List.append_nil _).symm, fun _ heq => nomatch heq⟩

variable (kept : Table α)

/-- No two items of a table share an ID. -/
def Sound (inventory : Inventory) : Prop :=
  ((kept.items inventory).map kept.idOf).Nodup

variable {kept}

/-- Adding a record keeps IDs apart. -/
theorem Sound.inserted (hsound : kept.Sound inventory) (h : Inserted inventory record next) :
    kept.Sound next := by
  obtain ⟨hitems, hnew⟩ := kept.inserted h
  unfold Sound
  rw [hitems, List.map_append]
  refine hsound.append ?_ ?_
  · cases kept.pick record <;> simp
  · intro id hbefore hadded
    obtain ⟨other, hother, rfl⟩ := List.mem_map.1 hbefore
    obtain ⟨item, hitem, hid⟩ := List.mem_map.1 hadded
    exact hnew item (Option.mem_toList.1 hitem) other hother hid.symm

/-- Adding records one after another keeps IDs apart, checks all records and adds those of a kind to
its table, in their order. -/
theorem fold_ok {pairs : List (Record × Nat)} {last : Inventory} (hsound : kept.Sound inventory)
    (h : pairs.foldlM (fun inventory (record, index) => inventory.insertChecked index record)
      inventory = .ok last) :
    (∀ pair ∈ pairs, pair.1.check = .ok ()) ∧ kept.Sound last ∧
      kept.items last = kept.items inventory ++ (pairs.map Prod.fst).filterMap kept.pick := by
  induction pairs generalizing inventory with
  | nil =>
      cases h
      exact ⟨by simp, hsound, by simp⟩
  | cons pair rest ih =>
      rw [List.foldlM_cons] at h
      obtain ⟨next, hinsert, hrest⟩ := bind_ok h
      obtain ⟨hcheck, hinserted⟩ := insert_checked_ok hinsert
      obtain ⟨hchecks, hlast, hitems⟩ := ih (hsound.inserted hinserted) hrest
      refine ⟨List.forall_mem_cons.2 ⟨hcheck, hchecks⟩, hlast, ?_⟩
      rw [hitems, (kept.inserted hinserted).1, List.append_assoc, List.map_cons]
      cases hpick : kept.pick pair.1 with
      | none => simp [hpick]
      | some item => simp [hpick]

variable (kept) {records : List Record} (hrecords : ofRecords records = .ok inventory)
include hrecords

/-- A table of an inventory holds the records of its kind, in their order. All records have passed
their checks, and no two items of the table share an ID. -/
theorem of_records :
    (∀ record ∈ records, record.check = .ok ()) ∧ kept.Sound inventory ∧
      kept.items inventory = records.filterMap kept.pick := by
  obtain ⟨folded, hfold, hrest⟩ := bind_ok hrecords
  obtain ⟨_, -, hfolded⟩ := bind_ok hrest
  cases hfolded
  have hstart : kept.Sound empty := by
    unfold Sound
    rw [kept.items_empty]
    exact List.nodup_nil
  obtain ⟨hchecks, hsound, hitems⟩ := fold_ok hstart hfold
  rw [kept.items_empty, List.nil_append, List.zipIdx_map_fst] at hitems
  refine ⟨fun record hrecord => ?_, hsound, hitems⟩
  obtain ⟨index, hindex, rfl⟩ := List.getElem_of_mem hrecord
  exact hchecks (records[index], index)
    (List.mk_mem_zipIdx_iff_getElem?.2 (List.getElem?_eq_getElem hindex))

/-- An item of a table comes from a record that has passed its check. -/
theorem check_of_mem {item : α} (hitem : item ∈ kept.items inventory) :
    (kept.record item).check = .ok () := by
  obtain ⟨hchecks, -, hitems⟩ := kept.of_records hrecords
  rw [hitems] at hitem
  obtain ⟨entry, hentry, hpick⟩ := List.mem_filterMap.1 hitem
  rw [← kept.pick_eq hpick]
  exact hchecks entry hentry

/-- Items of a table with the same ID are the same. -/
theorem eq_of_id {first second : α} (hfirst : first ∈ kept.items inventory)
    (hsecond : second ∈ kept.items inventory) (h : kept.idOf first = kept.idOf second) :
    first = second :=
  List.inj_on_of_nodup_map (kept.of_records hrecords).2.1 hfirst hsecond h

/-- An item of a table is found by its ID. -/
theorem find_of_mem {item : α} (hitem : item ∈ kept.items inventory) :
    (kept.items inventory).find? (fun other => kept.idOf other == kept.idOf item) =
      some item := by
  cases hfound : (kept.items inventory).find? (fun other => kept.idOf other == kept.idOf item) with
  | none => exact absurd (beq_self_eq_true _) (List.find?_eq_none.1 hfound item hitem)
  | some found =>
      have hid : kept.idOf found = kept.idOf item := by simpa using List.find?_some hfound
      rw [kept.eq_of_id hrecords (List.mem_of_find?_eq_some hfound) hitem hid]

end Table

end Inventory

end EdgeFleet
