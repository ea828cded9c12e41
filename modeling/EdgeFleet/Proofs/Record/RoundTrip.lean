import EdgeFleet.Proofs.Document
import EdgeFleet.Record.Basic

/-!
# Records that are read back

What is written of a record says all that there is to it. Each part of a record has a lemma of its
own, `faithful`, from those of its parts; `record_read_back` puts them together: a record of any
kind is read back from what it is written as.
-/

namespace EdgeFleet

open Document

/-! ### Workloads -/

theorem Document.Faithful.word : Faithful word? ofWord where
  read_write value := by simp [word?, ofWord, natBelow?, value.toNat_lt]
  write_ne_null _ := nofun

theorem Packaging.faithful : Faithful ofDocument? fun packaging => .text packaging.name where
  read_write packaging := by cases packaging <;> rfl
  write_ne_null _ := nofun

theorem PortProtocol.faithful : Faithful ofDocument? fun protocol => .text protocol.name where
  read_write protocol := by cases protocol <;> rfl
  write_ne_null _ := nofun

theorem ExposedPort.faithful : Faithful ofDocument? toDocument :=
  .of_fields fun _ => by
    simp [ofDocument?, Fields.of_written, Faithful.word.read_write,
      PortProtocol.faithful.read_write]

theorem App.faithful : Faithful ofDocument? fun app => .ofFields app.toFields :=
  .of_fields fun _ => by
    simp [ofDocument?, toFields, Fields.of_written, Faithful.text.read_write,
      Faithful.word.read_write, Packaging.faithful.read_write,
      ExposedPort.faithful.list.read_write]

theorem Vnf.faithful : Faithful ofDocument? fun vnf => .ofFields vnf.toFields :=
  .of_fields fun _ => by
    simp [ofDocument?, toFields, Fields.of_written, Faithful.text.read_write,
      Faithful.word.read_write, Packaging.faithful.read_write]

/-! ### Nodes and what is placed on them -/

theorem Node.faithful : Faithful ofDocument? fun node => .ofFields node.toFields :=
  .of_fields fun _ => by
    simp [ofDocument?, toFields, Fields.of_written, Faithful.text.read_write]

theorem NodeTarget.faithful : Faithful ofDocument? fun target => .ofFields target.toFields :=
  .of_fields fun _ => by
    simp [ofDocument?, toFields, Fields.of_written, Faithful.text.read_write]

theorem Placement.faithful (family : WorkloadClass) :
    Faithful (ofDocument? family) fun placement => .ofFields (placement.toFields family) :=
  .of_fields fun _ => by
    cases family <;>
      simp [ofDocument?, toFields, workloadField, Fields.of_written, Faithful.text.read_write,
        Faithful.text.left_out]

/-! ### Policies enforced by nodes -/

theorem MacFilter.faithful : Faithful ofDocument? toDocument :=
  .of_fields fun _ => by
    simp [ofDocument?, Fields.of_written, Faithful.texts.read_write]

theorem IpFilter.faithful : Faithful ofDocument? toDocument :=
  .of_fields fun _ => by
    simp [ofDocument?, Fields.of_written, Faithful.text.read_write, Faithful.word.read_write]

theorem GtpFilter.faithful : Faithful ofDocument? toDocument :=
  .of_fields fun _ => by
    simp [ofDocument?, Fields.of_written, Faithful.text.read_write, Faithful.word.read_write,
      Faithful.texts.read_write]

theorem Selector.faithful : Faithful ofDocument? toDocument :=
  .of_fields fun _ => by
    simp [ofDocument?, Fields.of_written, Faithful.text.read_write, MacFilter.faithful.left_out,
      IpFilter.faithful.left_out, GtpFilter.faithful.left_out]

theorem IpRedirect.faithful : Faithful ofDocument? toDocument :=
  .of_fields fun _ => by
    simp [ofDocument?, Fields.of_written, Faithful.text.read_write, Faithful.word.read_write]

/-- The new link-layer destination of a rule. -/
theorem RuleTarget.mac_faithful :
    Faithful macOfDocument? fun mac => .ofFields [("mac_address", some (.text mac))] :=
  .of_fields fun _ => by
    simp [macOfDocument?, Fields.of_written, Faithful.text.read_write]

theorem RuleTarget.faithful : Faithful ofDocument? toDocument :=
  .of_fields fun _ => by
    simp [ofDocument?, Fields.of_written, Faithful.text.read_write, mac_faithful.left_out,
      IpRedirect.faithful.left_out]

theorem TrafficRule.faithful : Faithful ofDocument? toDocument :=
  .of_fields fun _ => by
    simp [ofDocument?, orNull, Fields.of_written, Faithful.text.read_write,
      Faithful.word.read_write, Selector.faithful.or_null, RuleTarget.faithful.or_null]

theorem TrafficPolicy.faithful : Faithful ofDocument? fun policy => .ofFields policy.toFields :=
  .of_fields fun _ => by
    simp [ofDocument?, toFields, Fields.of_written, Faithful.text.read_write,
      TrafficRule.faithful.list.read_write]

/-! ### Policies enforced by the cluster -/

theorem IpBlock.faithful : Faithful ofDocument? toDocument :=
  .of_fields fun _ => by
    simp [ofDocument?, Fields.of_written, Faithful.text.read_write, Faithful.texts.read_write]

theorem ClusterPort.faithful : Faithful ofDocument? toDocument :=
  .of_fields fun port => by
    simp [ofDocument?, Fields.of_written, Faithful.text.read_write, natBelow?, port.port.toNat_lt]

/-- The peers of a rule are under a name of their own, which depends on its direction. -/
theorem ClusterRule.faithful (peerField : String)
    (hnodup : ["description", peerField, "ports"].Nodup) :
    Faithful (ofDocument? peerField) (toDocument peerField) :=
  .of_fields fun _ => by
    have hdescription : "description" ≠ peerField := by
      rintro rfl
      simp at hnodup
    have hports : peerField ≠ "ports" := by
      rintro rfl
      simp at hnodup
    simp [ofDocument?, Fields.of_written, hnodup, hdescription, hports, Faithful.text.read_write,
      IpBlock.faithful.list.read_write, ClusterPort.faithful.list.read_write]

theorem ClusterPolicy.faithful : Faithful ofDocument? fun policy => .ofFields policy.toFields :=
  .of_fields fun _ => by
    simp [ofDocument?, toFields, Fields.of_written, Faithful.text.read_write,
      (ClusterRule.faithful "from" (by decide)).list.read_write,
      (ClusterRule.faithful "to" (by decide)).list.read_write]

/-! ### DNS configurations -/

theorem DnsRecord.faithful : Faithful ofDocument? toDocument :=
  .of_fields fun _ => by
    simp [ofDocument?, Fields.of_written, Faithful.text.read_write, Faithful.texts.read_write]

theorem DnsForwarder.faithful : Faithful ofDocument? toDocument :=
  .of_fields fun _ => by
    simp [ofDocument?, Fields.of_written, Faithful.text.read_write]

theorem DnsConfig.faithful : Faithful ofDocument? fun config => .ofFields config.toFields :=
  .of_fields fun _ => by
    simp [ofDocument?, toFields, Fields.of_written, Faithful.text.read_write,
      DnsRecord.faithful.list.read_write, DnsForwarder.faithful.list.read_write]

theorem DnsAlias.faithful : Faithful ofDocument? fun entry => .ofFields entry.toFields :=
  .of_fields fun _ => by
    simp [ofDocument?, toFields, Fields.of_written, Faithful.text.read_write]

/-! ### Records -/

namespace Record

/-- No field of a record is called like the entry that gives its kind. -/
theorem kind_not_field (record : Record) : "kind" ∉ record.toFields.map Prod.fst := by
  cases record with
  | placement family e =>
      cases family <;> simp [toFields, Placement.toFields, Placement.workloadField]
  | _ =>
      simp [toFields, Node.toFields, NodeTarget.toFields, App.toFields, Vnf.toFields,
        TrafficPolicy.toFields, ClusterPolicy.toFields, DnsConfig.toFields, DnsAlias.toFields]

/-- The kind that is given before other entries decides how these are read. -/
theorem of_kind_cons {entries : List (Document × Document)}
    (h : ∀ entry ∈ entries, isKindEntry entry = false) (kind : String) :
    ofDocument? (.map ((.text "kind", .text kind) :: entries)) = ofKind? kind (.map entries) := by
  have hnone : entries.filter isKindEntry = [] :=
    List.filter_eq_nil_iff.2 fun entry hentry => by simp [h entry hentry]
  have hall : entries.filter (fun entry => !isKindEntry entry) = entries :=
    List.filter_eq_self.2 fun entry hentry => by simp [h entry hentry]
  have hkind : isKindEntry (.text "kind", .text kind) = true := rfl
  simp [ofDocument?, hkind, hnone, hall]

/-- The kind of a record decides how its fields are read. -/
theorem of_written (record : Record) :
    ofDocument? record.toDocument = ofKind? record.kind (.ofFields record.toFields) := by
  refine of_kind_cons (fun entry hentry => ?_) record.kind
  obtain ⟨⟨name, value⟩, hfield, hvalue⟩ := List.mem_filterMap.1 hentry
  obtain ⟨value, -, rfl⟩ := Option.map_eq_some_iff.1 hvalue
  have hname : name ≠ "kind" := by
    rintro rfl
    exact record.kind_not_field (List.mem_map.2 ⟨_, hfield, rfl⟩)
  simpa [isKindEntry, text?] using hname

/-- The fields of a record are read back under its kind. -/
theorem of_kind_fields (record : Record) :
    ofKind? record.kind (.ofFields record.toFields) = some record := by
  cases record with
  | placement family e =>
      cases family <;> simp [ofKind?, kind, toFields, (Placement.faithful _).read_write]
  | _ =>
      simp [ofKind?, kind, toFields, Node.faithful.read_write, NodeTarget.faithful.read_write,
        App.faithful.read_write, Vnf.faithful.read_write, TrafficPolicy.faithful.read_write,
        ClusterPolicy.faithful.read_write, DnsConfig.faithful.read_write,
        DnsAlias.faithful.read_write]

/-- A record of any kind is read back from what it is written as, which is then written once
more as it was. -/
theorem record_read_back (record : Record) :
    ofDocument? record.toDocument = some record ∧
      (ofDocument? record.toDocument).map toDocument = some record.toDocument := by
  have hread : ofDocument? record.toDocument = some record := by
    rw [of_written, of_kind_fields]
  exact ⟨hread, by rw [hread, Option.map_some]⟩

end Record

end EdgeFleet
