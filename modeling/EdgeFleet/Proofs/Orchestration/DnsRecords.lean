import EdgeFleet.Proofs.Orchestration.DnsRetry
import Mathlib.Data.List.Nodup

/-!
# What a node resolves after a push

A push that ends well leaves under every name that it sets the values of the last record of this
name (`DnsChange.records_after`), since a later record replaces an earlier one. `dns_records_held`
is the main result: what a push leaves of the records that were pushed, and exactly when nothing of
them is lost. Names may be given more than once, so that something may be: `dns_record_replaced`.
-/

namespace EdgeFleet

namespace DnsRecord

/-- The last record with a name. -/
def lastNamed? (name : String) (records : List DnsRecord) : Option DnsRecord :=
  records.reverse.find? fun record => record.name == name

/-- Whether the last record of every name has the addresses of all records of that name. -/
def Gathered (records : List DnsRecord) : Prop :=
  ∀ record ∈ records, ∀ last, lastNamed? record.name records = some last →
    ∀ ip ∈ record.ips, ip ∈ last.ips

/-- Whether a node has all addresses of a record under its name. -/
def IsHeld (record : DnsRecord) (held : String → Option (List String)) : Prop :=
  ∃ values, held record.name = some values ∧ ∀ ip ∈ record.ips, ip ∈ values

variable {record last : DnsRecord} {records : List DnsRecord} {name : String}

/-- A record behind others is the last one of its name. -/
theorem last_named_concat (name : String) (records : List DnsRecord) (record : DnsRecord) :
    lastNamed? name (records ++ [record]) =
      if record.name = name then some record else lastNamed? name records := by
  by_cases hname : record.name = name
  · simp [lastNamed?, hname]
  · simp [lastNamed?, hname]

/-- The last record of a name is one of the records. -/
theorem mem_of_last_named (h : lastNamed? name records = some last) :
    last ∈ records ∧ last.name = name := by
  have hname := List.find?_some h
  exact ⟨List.mem_reverse.1 (List.mem_of_find?_eq_some h), by simpa using hname⟩

/-- The name of every record has a last record. -/
theorem exists_last_named (h : record ∈ records) :
    ∃ last, lastNamed? record.name records = some last := by
  rw [← Option.isSome_iff_exists, lastNamed?, List.find?_isSome]
  exact ⟨record, List.mem_reverse.2 h, by simp⟩

/-- Where no two records have the same name, none replaces another one. -/
theorem gathered_of_nodup (h : (records.map DnsRecord.name).Nodup) : Gathered records := by
  intro record hrecord last hlast ip hip
  obtain ⟨hmem, hname⟩ := mem_of_last_named hlast
  rwa [List.inj_on_of_nodup_map h hmem hrecord hname]

end DnsRecord

namespace DnsChange

open Agent (Names)

/-- After records were set in order, a name has the values of the last one of this name. -/
theorem records_after_sets (records : List DnsRecord) (names : Names) (name : String) :
    (names.serveAll (records.map DnsChange.apply.recordRequest)).records name =
      ((DnsRecord.lastNamed? name records).map DnsRecord.ips).or (names.records name) := by
  induction records using List.reverseRecOn with
  | nil => rfl
  | append_singleton rest record ih =>
      have hset : names.serveAll ((rest ++ [record]).map DnsChange.apply.recordRequest) =
          (names.serveAll (rest.map DnsChange.apply.recordRequest)).serve
            (DnsChange.apply.recordRequest record) := by
        rw [List.map_append, Names.serve_all_append]
        rfl
      rw [hset, serve_record, DnsRecord.last_named_concat]
      by_cases hname : record.name = name
      · simp [hname, left]
      · simp [hname, Ne.symm hname, ih]

/-- After a configuration was applied, a name has the values of the last record that was pushed for
it. Forwarders change nothing about it. -/
theorem records_after (config : DnsConfig) (aliases : List DnsAlias) (names : Names)
    (name : String) :
    (names.serveAll (DnsChange.apply.messages config aliases)).records name =
      ((DnsRecord.lastNamed? name (aliases.map DnsAlias.record ++ config.records)).map
        DnsRecord.ips).or (names.records name) := by
  rw [messages_eq, Names.serve_all_append, ← records_after_sets]
  split
  · rfl
  · rfl

end DnsChange

/-- A DNS configuration that was applied leaves under the name of every record that was pushed, for
an alias or for the configuration itself, the addresses of the last record of this name. So a node
that keeps names has all that was pushed exactly if the last record of every name has the addresses
of all records of that name; otherwise some record or alias is lost although the push ended well. -/
theorem dns_records_held {σ : Type} {world : World σ} {nodeId : String} {names : σ → Agent.Names}
    (hkeeps : world.KeepsNames nodeId names) (controller : Controller) (config : DnsConfig)
    (aliases : List DnsAlias) (state : σ)
    (h : ((controller.applyDns nodeId config aliases).run world state).1 = .ok ()) :
    let held := (names ((controller.applyDns nodeId config aliases).run world state).2).records
    let pushed := aliases.map DnsAlias.record ++ config.records
    (∀ record ∈ pushed, ∃ last ∈ pushed, DnsRecord.lastNamed? record.name pushed = some last ∧
        held record.name = some last.ips) ∧
      (((∀ record ∈ config.records, record.IsHeld held) ∧
          ∀ entry ∈ aliases, ∃ values, held entry.appId = some values ∧ entry.appId ∈ values) ↔
        DnsRecord.Gathered pushed) := by
  intro held pushed
  obtain ⟨served, -, hnames, hserved⟩ :=
    controller.change_dns_serves hkeeps .apply config aliases state
  have hheld (record : DnsRecord) (hrecord : record ∈ pushed) :
      ∃ last ∈ pushed, DnsRecord.lastNamed? record.name pushed = some last ∧
        held record.name = some last.ips := by
    obtain ⟨last, hlast⟩ := DnsRecord.exists_last_named hrecord
    refine ⟨last, (DnsRecord.mem_of_last_named hlast).1, hlast, ?_⟩
    have hafter := DnsChange.records_after config aliases (names state) record.name
    rw [hlast] at hafter
    rw [← hserved h, ← hnames] at hafter
    exact hafter
  have hall : (∀ record ∈ pushed, record.IsHeld held) ↔ DnsRecord.Gathered pushed := by
    constructor
    · intro hrecords record hrecord last hlast ip hip
      obtain ⟨values, hvalues, hips⟩ := hrecords record hrecord
      obtain ⟨_, -, hother, hlasting⟩ := hheld record hrecord
      obtain rfl := Option.some.inj (hlast.symm.trans hother)
      rw [Option.some.inj (hlasting.symm.trans hvalues)]
      exact hips ip hip
    · intro hgathered record hrecord
      obtain ⟨last, -, hlast, hlasting⟩ := hheld record hrecord
      exact ⟨last.ips, hlasting, hgathered record hrecord last hlast⟩
  refine ⟨hheld, ?_⟩
  rw [← hall, List.forall_mem_append, List.forall_mem_map, and_comm]
  simp [DnsRecord.IsHeld, DnsAlias.record]

open Sample in
/-- Where no name is given twice, a record and an alias are held, and the node's own record of the
same name is gone. -/
theorem dns_records_held_zone :
    let ended := (nodeController.applyDns node.id zone [published]).run
      (Agent.Names.world node.id) (resolving, [])
    ended.1 = .ok () ∧ (∀ record ∈ zone.records, record.IsHeld ended.2.1.records) ∧
      ∃ values, ended.2.1.records published.appId = some values ∧ published.appId ∈ values := by
  intro ended
  have hended : ended.1 = .ok () := by decide +kernel
  have hgathered : DnsRecord.Gathered ([published].map DnsAlias.record ++ zone.records) :=
    DnsRecord.gathered_of_nodup (by decide)
  obtain ⟨hrecords, haliases⟩ := (dns_records_held (Agent.Names.world_keeps_names node.id)
    nodeController zone [published] (resolving, []) hended).2.2 hgathered
  exact ⟨hended, hrecords, haliases published List.mem_cons_self⟩

namespace Sample

/-- A configuration that gives one name in two records. -/
def twice : DnsConfig :=
  { zone with records := [⟨"cache.edge", "the cache", ["192.0.2.80"]⟩,
      ⟨"cache.edge", "its spare", ["192.0.2.81"]⟩] }

end Sample

open Sample in
/-- A configuration that gives a name twice passes its check and is pushed without a fault, but the
second record has replaced the first. -/
theorem dns_record_replaced :
    let ended := (nodeController.applyDns node.id twice []).run (Agent.Names.world node.id)
      (resolving, [])
    twice.check = .ok () ∧ ended.1 = .ok () ∧
      ended.2.1.records "cache.edge" = some ["192.0.2.81"] ∧
        ¬ ∀ record ∈ twice.records, record.IsHeld ended.2.1.records := by
  intro ended
  have hheld : ended.2.1.records "cache.edge" = some ["192.0.2.81"] := by decide +kernel
  refine ⟨Check.eq_ok (by decide +kernel), by decide +kernel, hheld, fun hrecords => ?_⟩
  obtain ⟨values, hvalues, hips⟩ := hrecords _ List.mem_cons_self
  obtain rfl := Option.some.inj (hheld.symm.trans hvalues)
  exact absurd (hips "192.0.2.80" List.mem_cons_self) (by decide)

end EdgeFleet
