import EdgeFleet.Cluster.NetworkPolicy
import EdgeFleet.Proofs.Check

/-!
# Network policies are read back

The network policy for a traffic policy is written down, and then read as an object of the cluster.
`NetworkPolicy.read_back` says that every network policy is read as it was written, and
`NetworkPolicy.translate` builds the one for a traffic policy without writing anything. The main
result, `NetworkPolicy.of_policy_eq`, says that both ways are the same, so that reading never
fails.
-/

namespace EdgeFleet

/-! ### Members of objects -/

namespace Json

variable {key : String} {value : Option Json}

/-- Members with other keys do not count. -/
theorem foldl_absent {members : List (String × Json)} (h : ∀ member ∈ members, member.1 ≠ key)
    (found : Option Json) :
    members.foldl (fun found member => if member.1 == key then some member.2 else found) found =
      found := by
  induction members with
  | nil => rfl
  | cons member rest ih =>
      obtain ⟨hmember, hrest⟩ := List.forall_mem_cons.1 h
      rw [List.foldl_cons, if_neg (by simpa using hmember), ih hrest]

/-- The members that are there are found by their keys. -/
theorem present_compact {members : List (String × Option Json)}
    (hkeys : (members.map Prod.fst).Nodup) (hmember : (key, value) ∈ members)
    (hvalue : value ≠ some .null) : (Json.compact members).present? key = value := by
  have hfound : (Json.compact members).get? key = value := by
    show lookup key (members.filterMap fun member => member.2.map (member.1, ·)) = value
    unfold lookup
    induction members with
    | nil => cases hmember
    | cons member rest ih =>
        obtain ⟨other, content⟩ := member
        rw [List.map_cons, List.nodup_cons] at hkeys
        rcases List.mem_cons.1 hmember with hhead | htail
        · -- No member behind this one bears its key.
          obtain ⟨rfl, rfl⟩ := Prod.mk.inj hhead
          have habsent : ∀ found ∈ rest.filterMap (fun member => member.2.map (member.1, ·)),
              found.1 ≠ key := by
            rintro ⟨name, json⟩ hjson rfl
            obtain ⟨⟨other, content⟩, hother, hcontent⟩ := List.mem_filterMap.1 hjson
            obtain ⟨json, rfl, hpair⟩ := Option.map_eq_some_iff.1 hcontent
            obtain ⟨rfl, rfl⟩ := Prod.mk.inj hpair
            exact hkeys.1 (List.mem_map.2 ⟨_, hother, rfl⟩)
          cases value with
          | none => simpa using foldl_absent habsent none
          | some json => simpa using foldl_absent habsent (some json)
        · have hother : other ≠ key := by
            rintro rfl
            exact hkeys.1 (List.mem_map.2 ⟨_, htail, rfl⟩)
          cases content with
          | none => simpa using ih hkeys.2 htail
          | some json => simpa [hother] using ih hkeys.2 htail
  unfold present?
  rw [hfound]
  split
  · next hnull => exact absurd rfl hvalue
  · rfl

end Json

namespace Cluster

namespace Object

variable {α β : Type} {members : List (String × Option Json)} {key : String}

/-- A member that is written from a value is read as what this value is read as. -/
theorem optional_compact {encode : α → Json} {read : Json → Option β} {result : α → β}
    {value : Option α} (hkeys : (members.map Prod.fst).Nodup)
    (hmember : (key, value.map encode) ∈ members)
    (hread : ∀ item ∈ value, encode item ≠ .null ∧ read (encode item) = some (result item)) :
    optional (.compact members) key read = some (value.map result) := by
  have hvalue : value.map encode ≠ some .null := by
    intro hnull
    obtain ⟨item, hitem, hencode⟩ := Option.map_eq_some_iff.1 hnull
    exact (hread item hitem).1 hencode
  rw [optional, Json.present_compact hkeys hmember hvalue]
  cases value with
  | none => rfl
  | some item => simp [(hread item rfl).2]

/-- In particular, one that is read back is the same. -/
theorem optional_back {encode : α → Json} {read : Json → Option α} {value : Option α}
    (hkeys : (members.map Prod.fst).Nodup) (hmember : (key, value.map encode) ∈ members)
    (hread : ∀ item ∈ value, encode item ≠ .null ∧ read (encode item) = some item) :
    optional (.compact members) key read = some value := by
  rw [optional_compact hkeys hmember hread, Option.map_id']

/-- A member that is there is read in place of what it is without it. -/
theorem with_default_of_some {object : Json} {read : Json → Option α} {value usual : α}
    (h : optional object key read = some (some value)) :
    withDefault object key usual read = some value := by
  rw [withDefault, h]
  rfl

/-- A list that is written item by item is read item by item. -/
theorem list_of_list {encode : α → Json} {read : Json → Option α} {items : List α}
    (h : ∀ item ∈ items, read (encode item) = some item) :
    listOf? read (Json.ofList encode items) = some items := by
  show (items.map encode).mapM read = some items
  induction items with
  | nil => rfl
  | cons item rest ih =>
      obtain ⟨hitem, hrest⟩ := List.forall_mem_cons.1 h
      simp [List.mapM_cons, hitem, ih hrest]

theorem list_of_strings (items : List String) :
    listOf? Json.text? (Json.strings items) = some items :=
  list_of_list fun _ _ => rfl

/-- Labels are read as they were written, but for those that are replaced. -/
theorem labels_of_labels (labels : Labels) : labels? (ofLabels labels) = some (merged labels) := by
  let read (member : String × Json) : Option (String × String) :=
    member.2.text?.map (member.1, ·)
  let write (label : String × String) : String × Json := (label.1, .string label.2)
  have hback : ∀ label, read (write label) = some label := fun _ => rfl
  show ((labels.map write).mapM read >>= fun labels => some (merged labels)) = _
  rw [map_all_read hback]
  rfl

/-- A single label is kept. -/
theorem merged_single (label : String × String) : merged [label] = [label] := rfl

/-- Labels with a key for each are all kept. -/
theorem merged_of_nodup {labels : Labels} (h : (labels.map Prod.fst).Nodup) :
    merged labels = labels := by
  have hfold : ∀ kept : Labels, ((kept ++ labels).map Prod.fst).Nodup →
      labels.foldl (fun kept label => kept.filter (·.1 != label.1) ++ [label]) kept =
        kept ++ labels := by
    clear h
    induction labels with
    | nil => simp
    | cons label rest ih =>
        intro kept hkept
        have hnew : kept.filter (·.1 != label.1) = kept := by
          rw [List.filter_eq_self]
          intro old hold
          rw [List.map_append, List.nodup_append] at hkept
          exact bne_iff_ne.2 (hkept.2.2 old.1 (List.mem_map_of_mem hold) label.1 (by simp))
        rw [List.foldl_cons, hnew, ih (kept ++ [label]) (by simpa using hkept)]
        simp
  exact (hfold [] h).trans (List.nil_append labels)

end Object

/-- Metadata is read as it was written, but for labels that are replaced. -/
theorem Metadata.read_back (metadata : Metadata) :
    ofJson? metadata.toJson =
      some { metadata with labels := metadata.labels.map Object.merged } := by
  have hname : Object.optional metadata.toJson "name" Json.text? = some metadata.name :=
    Object.optional_back (by simp) (.head _) fun _ _ => ⟨nofun, rfl⟩
  have hnamespace : Object.optional metadata.toJson "namespace" Json.text? =
      some metadata.namespaceName :=
    Object.optional_back (by simp) (.tail _ (.head _)) fun _ _ => ⟨nofun, rfl⟩
  have hlabels : Object.optional metadata.toJson "labels" Object.labels? =
      some (metadata.labels.map Object.merged) :=
    Object.optional_compact (by simp) (.tail _ (.tail _ (.head _)))
      fun _ _ => ⟨nofun, Object.labels_of_labels _⟩
  have hopen : Object.open? metadata.toJson = some metadata.toJson := rfl
  simp only [ofJson?, hopen, Option.bind_eq_bind, Option.bind_some, hname, hnamespace, hlabels,
    Option.pure_def]

/-- So is a selector. -/
theorem LabelSelector.read_back (selector : LabelSelector) :
    ofJson? selector.toJson = some ⟨selector.required.map Object.merged⟩ := by
  have hlabels : Object.optional selector.toJson "matchLabels" Object.labels? =
      some (selector.required.map Object.merged) :=
    Object.optional_compact (by simp) (.head _) fun _ _ => ⟨nofun, Object.labels_of_labels _⟩
  have hopen : Object.open? selector.toJson = some selector.toJson := rfl
  simp only [ofJson?, hopen, Option.bind_eq_bind, Option.bind_some, hlabels, Option.pure_def]

/-! ### Network policies -/

/-- A block is read as it was written. -/
theorem AddressBlock.read_back (block : AddressBlock) : ofJson? block.toJson = some block := by
  let inner := Json.compact [("cidr", some (.string block.cidr)),
    ("except", block.except.map Json.strings)]
  have hinner : Object.optional block.toJson "ipBlock" Object.open? = some (some inner) := by
    show Object.optional (Json.compact [("ipBlock", (some inner).map id)]) _ _ = _
    exact Object.optional_back (by simp) (.head _) (by rintro _ ⟨⟩; exact ⟨nofun, rfl⟩)
  have hcidr : Object.optional inner "cidr" Json.text? = some (some block.cidr) := by
    have hmember : ("cidr", (some block.cidr).map Json.string) ∈
        [("cidr", some (Json.string block.cidr)), ("except", block.except.map Json.strings)] :=
      .head _
    exact Object.optional_back (by simp) hmember fun _ _ => ⟨nofun, rfl⟩
  have hexcept : Object.optional inner "except" (Object.listOf? Json.text?) =
      some block.except :=
    Object.optional_back (by simp) (.tail _ (.head _)) fun _ _ =>
      ⟨nofun, Object.list_of_strings _⟩
  have hopen : Object.open? block.toJson = some block.toJson := rfl
  simp only [ofJson?, hopen, Option.bind_eq_bind, Option.bind_some, Option.pure_def,
    Object.with_default_of_some hinner, Object.with_default_of_some hcidr, hexcept]

/-- Whether the number of a port, if it has one, is one of 32 bits with a sign. -/
def PolicyPort.Fits (port : PolicyPort) : Prop :=
  ∀ number ∈ port.port, -0x80000000 ≤ number ∧ number < 0x80000000

/-- A port with such a number is read as it was written. -/
theorem PolicyPort.read_back {port : PolicyPort} (h : port.Fits) :
    ofJson? port.toJson = some port := by
  have hnumber : Object.optional port.toJson "port" Object.int32? = some port.port := by
    refine Object.optional_back (by simp) (.head _) fun number hport => ⟨nofun, ?_⟩
    simpa [Object.int32?, Json.int?, Option.filter_some] using h number hport
  have hprotocol : Object.optional port.toJson "protocol" Json.text? = some port.protocol :=
    Object.optional_back (by simp) (.tail _ (.head _)) fun _ _ => ⟨nofun, rfl⟩
  have hopen : Object.open? port.toJson = some port.toJson := rfl
  simp only [ofJson?, hopen, Option.bind_eq_bind, Option.bind_some, Option.pure_def, hnumber,
    hprotocol]

/-- Whether all ports of a rule have such numbers. -/
def PolicyRule.Fits (rule : PolicyRule) : Prop :=
  ∀ ports ∈ rule.ports, ∀ port ∈ ports, port.Fits

/-- A rule with such ports is read as it was written. -/
theorem PolicyRule.read_back {rule : PolicyRule} (h : rule.Fits) (direction : Direction) :
    ofJson? direction (rule.toJson direction) = some rule := by
  have hkeys : ([direction.peerKey, "ports"] : List String).Nodup := by
    cases direction <;> simp [Direction.peerKey]
  have hpeers : Object.optional (rule.toJson direction) direction.peerKey
      (Object.listOf? AddressBlock.ofJson?) = some rule.peers :=
    Object.optional_back hkeys (.head _) fun peers _ =>
      ⟨nofun, Object.list_of_list fun block _ => block.read_back⟩
  have hports : Object.optional (rule.toJson direction) "ports"
      (Object.listOf? PolicyPort.ofJson?) = some rule.ports :=
    Object.optional_back hkeys (.tail _ (.head _)) fun ports hin =>
      ⟨nofun, Object.list_of_list fun port hport => PolicyPort.read_back (h ports hin port hport)⟩
  have hopen : Object.open? (rule.toJson direction) = some (rule.toJson direction) := by
    rfl
  simp only [ofJson?, hopen, Option.bind_eq_bind, Option.bind_some, Option.pure_def, hpeers,
    hports]

namespace NetworkPolicySpec

/-- Whether all rules of a network policy have ports with such numbers. -/
structure Fits (spec : NetworkPolicySpec) : Prop where
  egress : ∀ rules ∈ spec.egress, ∀ rule ∈ rules, rule.Fits
  ingress : ∀ rules ∈ spec.ingress, ∀ rule ∈ rules, rule.Fits

/-- What a network policy is to be with the labels of pods merged. -/
def merged (spec : NetworkPolicySpec) : NetworkPolicySpec :=
  { spec with pods := ⟨spec.pods.required.map Object.merged⟩ }

/-- What a network policy is to be is read as it was written, but for labels that are replaced. -/
theorem read_back {spec : NetworkPolicySpec} (h : spec.Fits) :
    ofJson? spec.toJson = some spec.merged := by
  have hegress : Object.optional spec.toJson "egress"
      (Object.listOf? (PolicyRule.ofJson? .egress)) = some spec.egress :=
    Object.optional_back (by simp) (.head _) fun rules hin =>
      ⟨nofun, Object.list_of_list fun rule hrule =>
        PolicyRule.read_back (h.egress rules hin rule hrule) .egress⟩
  have hingress : Object.optional spec.toJson "ingress"
      (Object.listOf? (PolicyRule.ofJson? .ingress)) = some spec.ingress :=
    Object.optional_back (by simp) (.tail _ (.head _)) fun rules hin =>
      ⟨nofun, Object.list_of_list fun rule hrule =>
        PolicyRule.read_back (h.ingress rules hin rule hrule) .ingress⟩
  have hpods : Object.optional spec.toJson "podSelector" LabelSelector.ofJson? =
      some (some spec.merged.pods) := by
    have hmember : ("podSelector", (some spec.pods).map LabelSelector.toJson) ∈
        [("egress", spec.egress.map (Json.ofList (PolicyRule.toJson .egress))),
          ("ingress", spec.ingress.map (Json.ofList (PolicyRule.toJson .ingress))),
          ("podSelector", some spec.pods.toJson),
          ("policyTypes", spec.directions.map Json.strings)] :=
      .tail _ (.tail _ (.head _))
    exact Object.optional_compact (by simp) hmember fun _ _ =>
      ⟨nofun, LabelSelector.read_back _⟩
  have hdirections : Object.optional spec.toJson "policyTypes" (Object.listOf? Json.text?) =
      some spec.directions :=
    Object.optional_back (by simp) (.tail _ (.tail _ (.tail _ (.head _)))) fun _ _ =>
      ⟨nofun, Object.list_of_strings _⟩
  have hopen : Object.open? spec.toJson = some spec.toJson := rfl
  simp only [ofJson?, hopen, Option.bind_eq_bind, Option.bind_some, Option.pure_def,
    Object.with_default_of_some hpods, hdirections, hegress, hingress, merged]

end NetworkPolicySpec

namespace NetworkPolicy

/-- Whether all rules of a network policy have ports with such numbers. -/
def Fits (policy : NetworkPolicy) : Prop :=
  ∀ spec ∈ policy.spec, spec.Fits

/-- A network policy with all its labels merged. -/
def merged (policy : NetworkPolicy) : NetworkPolicy where
  metadata := { policy.metadata with labels := policy.metadata.labels.map Object.merged }
  spec := policy.spec.map NetworkPolicySpec.merged

/-- A network policy is read as it was written, but for labels that are replaced. -/
theorem read_back {policy : NetworkPolicy} (h : policy.Fits) :
    ofJson? policy.toJson = some policy.merged := by
  let members : List (String × Option Json) := [
    ("apiVersion", some (.string "networking.k8s.io/v1")),
    ("kind", some (.string "NetworkPolicy")),
    ("metadata", some policy.metadata.toJson),
    ("spec", policy.spec.map NetworkPolicySpec.toJson)]
  have hkeys : (members.map Prod.fst).Nodup := by simp [members]
  have hversion : Object.expect policy.toJson "apiVersion" "networking.k8s.io/v1" = some () := by
    have hpresent : policy.toJson.present? "apiVersion" = _ :=
      Json.present_compact hkeys (.head _) nofun
    simp [Object.expect, hpresent, Json.text?]
  have hkind : Object.expect policy.toJson "kind" "NetworkPolicy" = some () := by
    have hpresent : policy.toJson.present? "kind" = _ :=
      Json.present_compact hkeys (.tail _ (.head _)) nofun
    simp [Object.expect, hpresent, Json.text?]
  have hmetadata : Object.optional policy.toJson "metadata" Metadata.ofJson? =
      some (some policy.merged.metadata) := by
    have hmember : ("metadata", (some policy.metadata).map Metadata.toJson) ∈ members :=
      .tail _ (.tail _ (.head _))
    exact Object.optional_compact hkeys hmember fun _ _ => ⟨nofun, Metadata.read_back _⟩
  have hspec : Object.optional policy.toJson "spec" NetworkPolicySpec.ofJson? =
      some policy.merged.spec := by
    have hmember : ("spec", policy.spec.map NetworkPolicySpec.toJson) ∈ members :=
      .tail _ (.tail _ (.tail _ (.head _)))
    exact Object.optional_compact hkeys hmember fun spec hin =>
      ⟨nofun, NetworkPolicySpec.read_back (h spec hin)⟩
  have hopen : Object.open? policy.toJson = some policy.toJson := rfl
  simp only [ofJson?, hopen, Option.bind_eq_bind, Option.bind_some, Option.pure_def, hversion,
    hkind, Object.with_default_of_some hmetadata, hspec]

end NetworkPolicy

/-! ### Without writing -/

open NetworkPolicy in
/-- The block of a peer of a traffic policy. -/
def AddressBlock.ofBlock (block : IpBlock) : AddressBlock :=
  ⟨block.cidr, unlessEmpty block.except⟩

/-- The port for a port of a traffic policy. -/
def PolicyPort.ofPort (port : ClusterPort) : Except Error PolicyPort := do
  let protocol ← Error.ofCheck port.clusterProtocol
  return ⟨some port.port.toNat, some protocol.name⟩

open NetworkPolicy in
/-- The rule for a rule of a traffic policy. -/
def PolicyRule.ofRule (rule : ClusterRule) : Except Error PolicyRule := do
  let ports ← rule.ports.mapM PolicyPort.ofPort
  return ⟨unlessEmpty (rule.peers.map AddressBlock.ofBlock), unlessEmpty ports⟩

namespace NetworkPolicy

/-- The rules of one direction of a traffic policy, if it has any. -/
def rules (given : List ClusterRule) : Except Error (Option (List PolicyRule)) :=
  (given.mapM PolicyRule.ofRule).map unlessEmpty

/-- The network policy for a traffic policy, on the pods with the given labels. -/
def translate (policy : ClusterPolicy) (name namespaceName : String) (pods : Labels) :
    Except Error NetworkPolicy := do
  let egress ← rules policy.egress
  let ingress ← rules policy.ingress
  return {
    metadata := ⟨some name, some namespaceName, some pods⟩
    spec := some {
      pods := ⟨some pods⟩
      directions := some ((restricted policy).map Direction.name)
      ingress, egress } }

/-- A list that is left out when it is empty is left out for its items as well. -/
theorem unless_empty_map {α β : Type} (f : α → β) (items : List α) :
    unlessEmpty (items.map f) = (unlessEmpty items).map (List.map f) := by
  cases items <;> rfl

/-- A list that is not left out is the list that was there. -/
theorem eq_of_unless_empty {α : Type} {items all : List α} (h : unlessEmpty items = some all) :
    items = all := by
  unfold unlessEmpty at h
  split at h
  · cases h
  · exact Option.some.inj h

/-- What is written for a port is the port. -/
theorem port_json_eq (port : ClusterPort) :
    portJson port = (PolicyPort.ofPort port).map PolicyPort.toJson := by
  unfold portJson PolicyPort.ofPort
  cases Error.ofCheck port.clusterProtocol <;> rfl

/-- What is written for a rule is the rule. -/
theorem rule_json_eq (direction : Direction) (rule : ClusterRule) :
    ruleJson direction rule = (PolicyRule.ofRule rule).map (PolicyRule.toJson direction) := by
  have hports : rule.ports.mapM portJson =
      (rule.ports.mapM PolicyPort.ofPort).map (List.map PolicyPort.toJson) := by
    rw [← map_all_map]
    exact congrArg (rule.ports.mapM ·) (funext port_json_eq)
  have hpeers : rule.peers.map peerJson =
      (rule.peers.map AddressBlock.ofBlock).map AddressBlock.toJson := by
    rw [List.map_map]
    rfl
  rw [ruleJson, PolicyRule.ofRule, hports]
  cases rule.ports.mapM PolicyPort.ofPort with
  | error error => rfl
  | ok ports =>
      refine congrArg Except.ok ?_
      rw [hpeers, unless_empty_map, unless_empty_map PolicyPort.toJson, Option.map_map,
        Option.map_map]
      rfl

/-- What is written for the rules of a direction are these rules. -/
theorem rules_json_eq (direction : Direction) (given : List ClusterRule) :
    rulesJson direction given =
      (rules given).map (Option.map (Json.ofList (PolicyRule.toJson direction))) := by
  have hrules : given.mapM (ruleJson direction) =
      (given.mapM PolicyRule.ofRule).map (List.map (PolicyRule.toJson direction)) := by
    rw [← map_all_map]
    exact congrArg (given.mapM ·) (funext (rule_json_eq direction))
  rw [rulesJson, rules, hrules]
  cases given.mapM PolicyRule.ofRule with
  | error error => rfl
  | ok all =>
      refine congrArg Except.ok ?_
      rw [unless_empty_map, Option.map_map]
      rfl

section Translation

variable {policy : ClusterPolicy} {name namespaceName : String} {pods : Labels}
  {object : NetworkPolicy}

/-- What is written for a traffic policy is its translation. -/
theorem policy_json_eq : policyJson policy name namespaceName pods =
    (translate policy name namespaceName pods).map toJson := by
  rw [policyJson, translate, rules_json_eq, rules_json_eq]
  cases rules policy.egress with
  | error error => rfl
  | ok egress => cases rules policy.ingress <;> rfl

/-- The ports of a rule that is translated fit. -/
theorem fits_of_rule {given : ClusterRule} {rule : PolicyRule}
    (h : PolicyRule.ofRule given = .ok rule) : rule.Fits := by
  obtain ⟨all, hall, h⟩ := bind_ok h
  obtain rfl := Except.ok.inj h
  intro ports hports port hport number hnumber
  obtain rfl := eq_of_unless_empty hports
  obtain ⟨source, -, hsource⟩ := mem_of_map_all hall port hport
  obtain ⟨protocol, -, hsource⟩ := bind_ok hsource
  obtain rfl := Except.ok.inj hsource
  obtain rfl := Option.some.inj hnumber
  have hlt := source.port.toNat_lt
  omega

/-- So do those of all rules of a direction. -/
theorem fits_of_rules {given : List ClusterRule} {translated : Option (List PolicyRule)}
    (h : rules given = .ok translated) : ∀ all ∈ translated, ∀ rule ∈ all, rule.Fits := by
  intro all hall rule hrule
  unfold rules at h
  cases hrules : given.mapM PolicyRule.ofRule with
  | error error => simp [hrules, Except.map] at h
  | ok found =>
      rw [hrules] at h
      obtain rfl := Except.ok.inj h
      obtain rfl := eq_of_unless_empty hall
      obtain ⟨source, -, hsource⟩ := mem_of_map_all hrules rule hrule
      exact fits_of_rule hsource

/-- So do those of a traffic policy. -/
theorem fits_of_translate (h : translate policy name namespaceName pods = .ok object) :
    object.Fits := by
  obtain ⟨egress, hegress, h⟩ := bind_ok h
  obtain ⟨ingress, hingress, h⟩ := bind_ok h
  obtain rfl := Except.ok.inj h
  rintro _ ⟨⟩
  exact ⟨fits_of_rules hegress, fits_of_rules hingress⟩

/-- Labels can be merged before they are used. -/
theorem translate_merged : translate policy name namespaceName (Object.merged pods) =
    (translate policy name namespaceName pods).map merged := by
  unfold translate
  cases rules policy.egress with
  | error error => rfl
  | ok egress => cases rules policy.ingress <;> rfl

/-- What is read back of what is written for a traffic policy is its translation, on the pods with
the labels that are not replaced by others. So reading does not fail. -/
theorem of_policy_eq : ofPolicy policy name namespaceName pods = (do
    Error.ofCheck policy.check
    translate policy name namespaceName (Object.merged pods)) := by
  rw [ofPolicy, policy_json_eq, translate_merged]
  cases Error.ofCheck policy.check with
  | error error => rfl
  | ok passed =>
      cases hobject : translate policy name namespaceName pods with
      | error error => rfl
      | ok object =>
          have hread := read_back (fits_of_translate hobject)
          simp only [Except.map, bind, Except.bind, hread, pure, Except.pure]

end Translation

end NetworkPolicy

end Cluster

end EdgeFleet
