import EdgeFleet.Proofs.Cluster.ReadBack

/-!
# What network policies let through

A traffic policy and the network policy that is built for it both say which packets a workload may
exchange with others. `ClusterPolicy.permits` reads the one and `NetworkPolicy.permits` the other in
the way of the cluster: a direction is restricted if it is listed, a list of peers or ports that is
left out lets all of them through, and a block is its network without the excepted ones. The main
result, `network_policy_faithful`, says that every policy that passes its check is translated, and
that both readings let the same packets through. It is about what is read back of what is written,
which `NetworkPolicy.of_policy_eq` gives without writing.
-/

namespace EdgeFleet

/-- A packet that a workload receives or sends. -/
structure Packet where
  direction : Cluster.Direction
  /-- The address at the other end. -/
  remote : Net.Address
  port : Nat
  /-- The transport protocol, if it is one that rules can name. -/
  protocol : Option ClusterProtocol
  deriving Repr, DecidableEq

/-- Whether an address lies in the network that a text names. -/
def Net.Network.covers (text : String) (address : Net.Address) : Bool :=
  (Net.Network.parse? text).any (·.contains address)

/-- Whether two texts differ at most in the case of letters. -/
def sameLetters (a b : String) : Bool :=
  a.toList.map Char.toLower == b.toList.map Char.toLower

/-- Whether an address lies in a block and in none of its exceptions. -/
def IpBlock.covers (block : IpBlock) (address : Net.Address) : Bool :=
  Net.Network.covers block.cidr address && !block.except.any (Net.Network.covers · address)

/-- Whether a port of a traffic policy is that of a packet. -/
def ClusterPort.lets (port : ClusterPort) (packet : Packet) : Bool :=
  port.port.toNat == packet.port &&
    packet.protocol.any fun protocol => sameLetters port.protocol protocol.name

/-- Whether a rule of a traffic policy lets a packet through. Without peers it lets all peers
through, and without ports all ports. -/
def ClusterRule.lets (rule : ClusterRule) (packet : Packet) : Bool :=
  (rule.peers.isEmpty || rule.peers.any (·.covers packet.remote)) &&
    (rule.ports.isEmpty || rule.ports.any (·.lets packet))

/-- The rules of a traffic policy for a direction. -/
def ClusterPolicy.rules (policy : ClusterPolicy) : Cluster.Direction → List ClusterRule
  | .ingress => policy.ingress
  | .egress => policy.egress

/-- Whether a traffic policy permits a packet: it has no rule for the direction of the packet, or
one that lets the packet through. -/
def ClusterPolicy.permits (policy : ClusterPolicy) (packet : Packet) : Bool :=
  (policy.rules packet.direction).isEmpty ||
    (policy.rules packet.direction).any (·.lets packet)

namespace Cluster

/-- Whether an address lies in a block of a network policy and in none of its exceptions. -/
def AddressBlock.covers (block : AddressBlock) (address : Net.Address) : Bool :=
  Net.Network.covers block.cidr address &&
    !(block.except.getD []).any (Net.Network.covers · address)

/-- Whether a port of a network policy is that of a packet. A port without a number is every port,
and one without a protocol is one of TCP. -/
def PolicyPort.lets (port : PolicyPort) (packet : Packet) : Bool :=
  port.port.all (· == (packet.port : Int)) &&
    packet.protocol.any fun protocol => port.protocol.getD "TCP" == protocol.name

/-- Whether a rule of a network policy lets a packet through. -/
def PolicyRule.lets (rule : PolicyRule) (packet : Packet) : Bool :=
  rule.peers.all (·.any (·.covers packet.remote)) && rule.ports.all (·.any (·.lets packet))

namespace NetworkPolicySpec

/-- The rules of a network policy for a direction. -/
def rules (spec : NetworkPolicySpec) : Direction → List PolicyRule
  | .ingress => spec.ingress.getD []
  | .egress => spec.egress.getD []

/-- Whether a network policy restricts a direction. -/
def restricts (spec : NetworkPolicySpec) (direction : Direction) : Bool :=
  (spec.directions.getD []).contains direction.name

end NetworkPolicySpec

/-- Whether a network policy permits the pods that it selects to exchange a packet. -/
def NetworkPolicy.permits (policy : NetworkPolicy) (packet : Packet) : Bool :=
  policy.spec.all fun spec =>
    !spec.restricts packet.direction || (spec.rules packet.direction).any (·.lets packet)

end Cluster

namespace ClusterPort

/-- The name of a protocol that a port was found to have is that protocol's, in letters of either
case, and no other's. -/
theorem same_letters_iff {port : ClusterPort} {protocol : ClusterProtocol}
    (h : port.clusterProtocol = .ok protocol) (other : ClusterProtocol) :
    sameLetters port.protocol other.name = (protocol == other) := by
  have hname : ∀ lower : String,
      String.ofList (port.protocol.toList.map Char.toLower) = lower →
        sameLetters port.protocol other.name =
          (lower.toList == other.name.toList.map Char.toLower) := by
    rintro lower rfl
    rw [String.toList_ofList]
    rfl
  unfold clusterProtocol at h
  split at h
  · next hlower =>
      cases h
      rw [hname _ hlower]
      cases other <;> decide
  · next hlower =>
      cases h
      rw [hname _ hlower]
      cases other <;> decide
  · next hlower =>
      cases h
      rw [hname _ hlower]
      cases other <;> decide
  · cases h

end ClusterPort

namespace Cluster

variable {packet : Packet}

/-- A port that is translated stays the same port. -/
theorem PolicyPort.lets_of_port {given : ClusterPort} {translated : PolicyPort}
    (h : ofPort given = .ok translated) : translated.lets packet = given.lets packet := by
  obtain ⟨protocol, hchecked, h⟩ := bind_ok h
  obtain rfl := Except.ok.inj h
  have hprotocol : given.clusterProtocol = .ok protocol := map_error_ok.1 hchecked
  have hnumber :
      ((given.port.toNat : Int) == packet.port) = (given.port.toNat == packet.port) := by
    rw [Bool.eq_iff_iff, beq_iff_eq, beq_iff_eq]
    omega
  simp only [lets, ClusterPort.lets, Option.all_some, Option.getD_some, hnumber,
    ClusterPort.same_letters_iff hprotocol]
  congr 2
  funext other
  cases protocol <;> cases other <;> decide

/-- A port whose protocol the cluster can tell apart is translated. -/
theorem PolicyPort.of_port_ok {given : ClusterPort}
    (h : ∃ protocol, given.clusterProtocol = .ok protocol) :
    ∃ translated, ofPort given = .ok translated := by
  obtain ⟨protocol, hprotocol⟩ := h
  exact ⟨_, by rw [ofPort, hprotocol]; rfl⟩

/-- A block that is translated covers the same addresses. -/
theorem AddressBlock.covers_of_block (block : IpBlock) (address : Net.Address) :
    (ofBlock block).covers address = block.covers address := by
  cases hexcept : block.except with
  | nil => simp [covers, ofBlock, IpBlock.covers, NetworkPolicy.unlessEmpty, hexcept]
  | cons first rest => simp [covers, ofBlock, IpBlock.covers, NetworkPolicy.unlessEmpty, hexcept]

namespace NetworkPolicy

variable {α : Type}

/-- What is left out because it is empty is an empty list. -/
@[simp] theorem unless_empty_get (items : List α) : (unlessEmpty items).getD [] = items := by
  cases items <;> rfl

/-- A list that is left out when it is empty restricts nothing then. -/
theorem unless_empty_all (items : List α) (lets : α → Bool) :
    (unlessEmpty items).all (·.any lets) = (items.isEmpty || items.any lets) := by
  cases items <;> simp [unlessEmpty]

end NetworkPolicy

namespace PolicyRule

/-- Lists whose items agree in order are empty together and hold together an item that is let
through. -/
theorem any_of_forall {α β : Type} {given : List α} {translated : List β} {letsGiven : α → Bool}
    {lets : β → Bool}
    (h : List.Forall₂ (fun item other => lets other = letsGiven item) given translated) :
    translated.isEmpty = given.isEmpty ∧ translated.any lets = given.any letsGiven := by
  induction h with
  | nil => exact ⟨rfl, rfl⟩
  | cons hitem _ ih => exact ⟨rfl, by simp only [List.any_cons, hitem, ih.2]⟩

/-- Rules that let the same packets through. -/
def Agrees (translated : PolicyRule) (given : ClusterRule) : Prop :=
  ∀ packet, translated.lets packet = given.lets packet

/-- A rule that is translated lets the same packets through. -/
theorem agrees_of_rule {given : ClusterRule} {translated : PolicyRule}
    (h : ofRule given = .ok translated) : Agrees translated given := by
  intro packet
  unfold ofRule at h
  cases hports : given.ports.mapM PolicyPort.ofPort with
  | error error => simp [hports, bind, Except.bind] at h
  | ok ports =>
      rw [hports] at h
      obtain rfl := Except.ok.inj h
      have hpeers : (given.peers.map AddressBlock.ofBlock).any (·.covers packet.remote) =
          given.peers.any (·.covers packet.remote) := by
        simp only [List.any_map, Function.comp_def, AddressBlock.covers_of_block]
      obtain ⟨hempty, hlets⟩ : ports.isEmpty = given.ports.isEmpty ∧
          ports.any (·.lets packet) = given.ports.any (·.lets packet) :=
        any_of_forall ((map_all_iff.1 hports).imp fun _ _ hport => PolicyPort.lets_of_port hport)
      simp only [lets, ClusterRule.lets, NetworkPolicy.unless_empty_all, List.isEmpty_map, hpeers,
        hempty, hlets]

/-- A rule is translated if the cluster can tell the protocols of its ports apart. -/
theorem of_rule_ok {given : ClusterRule}
    (h : ∀ port ∈ given.ports, ∃ protocol, port.clusterProtocol = .ok protocol) :
    ∃ translated, ofRule given = .ok translated := by
  obtain ⟨ports, hports⟩ := map_all_ok fun port hport => PolicyPort.of_port_ok (h port hport)
  exact ⟨_, by rw [ofRule, hports]; rfl⟩

end PolicyRule

end Cluster

/-- A port of a rule that passes its check has a protocol that the cluster can tell apart. -/
theorem ClusterRule.protocol_of_check {peerField : String} {rule : ClusterRule}
    (h : rule.check peerField = .ok ()) :
    ∀ port ∈ rule.ports, ∃ protocol, port.clusterProtocol = .ok protocol := by
  refine Check.each_mem (Check.bind_passes.1 h).2 fun i port hport => ?_
  rw [Check.inside_passes] at hport
  cases hprotocol : port.clusterProtocol with
  | ok protocol => exact ⟨protocol, rfl⟩
  | error violation => simp [hprotocol, Except.map] at hport

/-- So does every port of a policy that passes its check. -/
theorem ClusterPolicy.protocol_of_check {policy : ClusterPolicy} (h : policy.check = .ok ())
    (direction : Cluster.Direction) :
    ∀ rule ∈ policy.rules direction, ∀ port ∈ rule.ports,
      ∃ protocol, port.clusterProtocol = .ok protocol := by
  simp only [check, Check.bind_passes] at h
  obtain ⟨-, -, -, hingress, hegress⟩ := h
  cases direction with
  | ingress =>
      exact Check.each_mem hingress fun _ _ hrule =>
        ClusterRule.protocol_of_check (Check.inside_passes.1 hrule)
  | egress =>
      exact Check.each_mem hegress fun _ _ hrule =>
        ClusterRule.protocol_of_check (Check.inside_passes.1 hrule)

namespace Cluster.NetworkPolicy

/-- The rules of a direction are translated one by one, in order. -/
theorem rules_each {given : List ClusterRule} {translated : Option (List PolicyRule)}
    (h : rules given = .ok translated) :
    List.Forall₂ (fun rule sent => PolicyRule.ofRule rule = .ok sent) given
      (translated.getD []) := by
  unfold rules at h
  cases hrules : given.mapM PolicyRule.ofRule with
  | error error => simp [hrules, Except.map] at h
  | ok all =>
      rw [hrules] at h
      obtain rfl := Except.ok.inj h
      rw [unless_empty_get]
      exact map_all_iff.1 hrules

/-- So they agree with what they are translated from. -/
theorem rules_agree {given : List ClusterRule} {translated : Option (List PolicyRule)}
    (h : rules given = .ok translated) :
    List.Forall₂ PolicyRule.Agrees (translated.getD []) given :=
  ((rules_each h).imp fun _ _ hrule => PolicyRule.agrees_of_rule hrule).flip

/-- The rules of a direction are translated if the cluster can tell the protocols apart. -/
theorem rules_ok {given : List ClusterRule}
    (h : ∀ rule ∈ given, ∀ port ∈ rule.ports, ∃ protocol, port.clusterProtocol = .ok protocol) :
    ∃ translated, rules given = .ok translated := by
  obtain ⟨all, hall⟩ := map_all_ok fun rule hrule => PolicyRule.of_rule_ok (h rule hrule)
  exact ⟨_, by rw [rules, hall]; rfl⟩

/-- A direction is restricted if the traffic policy has rules for it. -/
theorem restricted_iff (policy : ClusterPolicy) (direction : Direction) :
    ((restricted policy).map Direction.name).contains direction.name =
      !(policy.rules direction).isEmpty := by
  unfold restricted
  cases direction with
  | ingress =>
      simp only [ClusterPolicy.rules]
      cases policy.egress.isEmpty <;> cases policy.ingress.isEmpty <;> decide
  | egress =>
      simp only [ClusterPolicy.rules]
      cases policy.egress.isEmpty <;> cases policy.ingress.isEmpty <;> decide

variable {policy : ClusterPolicy} {name namespaceName : String} {pods : Labels}
  {object : NetworkPolicy}

/-- All that is in the network policy for a traffic policy, which passes its check. -/
theorem of_policy_spec (h : ofPolicy policy name namespaceName pods = .ok object) :
    policy.check = .ok () ∧
      object.metadata = ⟨some name, some namespaceName, some (Object.merged pods)⟩ ∧
      ∃ spec, object.spec = some spec ∧ spec.pods = ⟨some (Object.merged pods)⟩ ∧
        spec.directions = some ((restricted policy).map Direction.name) ∧
        ∀ direction, List.Forall₂ PolicyRule.Agrees (spec.rules direction)
          (policy.rules direction) := by
  rw [of_policy_eq] at h
  obtain ⟨passed, hcheck, h⟩ := bind_ok h
  obtain ⟨egress, hegress, h⟩ := bind_ok h
  obtain ⟨ingress, hingress, h⟩ := bind_ok h
  obtain rfl := Except.ok.inj h
  refine ⟨map_error_ok.1 hcheck, rfl, _, rfl, rfl, rfl, fun direction => ?_⟩
  cases direction with
  | ingress => exact rules_agree hingress
  | egress => exact rules_agree hegress

/-- A traffic policy that passes its check is translated: no later step can fail, and what was
written can be read. -/
theorem of_policy_ok (name namespaceName : String) (pods : Labels) (h : policy.check = .ok ()) :
    ∃ object, ofPolicy policy name namespaceName pods = .ok object := by
  obtain ⟨egress, hegress⟩ : ∃ translated, rules policy.egress = .ok translated :=
    rules_ok (ClusterPolicy.protocol_of_check h .egress)
  obtain ⟨ingress, hingress⟩ : ∃ translated, rules policy.ingress = .ok translated :=
    rules_ok (ClusterPolicy.protocol_of_check h .ingress)
  exact ⟨_, by rw [of_policy_eq, h, translate, hegress, hingress]; rfl⟩

/-- One that is not translated fails its check, with what the check finds. -/
theorem of_policy_error {error : Error}
    (h : ofPolicy policy name namespaceName pods = .error error) :
    ∃ violation, policy.check = .error violation ∧ error = .validation (.violation violation) := by
  cases hcheck : policy.check with
  | ok =>
      obtain ⟨object, hobject⟩ := of_policy_ok name namespaceName pods hcheck
      exact nomatch h.symm.trans hobject
  | error violation =>
      rw [ofPolicy, hcheck] at h
      exact ⟨violation, rfl, (Except.error.inj h).symm⟩

/-- The network policy for a traffic policy permits the same packets. -/
theorem permits_of_policy (h : ofPolicy policy name namespaceName pods = .ok object)
    (packet : Packet) : object.permits packet = policy.permits packet := by
  obtain ⟨-, -, spec, hspec, -, hdirections, hrules⟩ := of_policy_spec h
  obtain ⟨-, hlets⟩ := PolicyRule.any_of_forall
    ((hrules packet.direction).flip.imp fun _ _ hagrees => hagrees packet)
  simp only [permits, hspec, Option.all_some, NetworkPolicySpec.restricts, hdirections,
    Option.getD_some, restricted_iff, Bool.not_not, hlets, ClusterPolicy.permits]

end Cluster.NetworkPolicy

open Cluster in
/-- A traffic policy is translated exactly if it passes its check; nothing else can fail, reading
back what was written included. The network policy has the name and the namespace that it was built
with, and the labels, if they have a key each. It permits the packets that the traffic policy
permits, and its rules are those of the traffic policy one by one, in order. -/
theorem network_policy_faithful (policy : ClusterPolicy) (name namespaceName : String)
    (pods : Labels) :
    (policy.check = .ok () ↔
      ∃ object, NetworkPolicy.ofPolicy policy name namespaceName pods = .ok object) ∧
    (∀ error, NetworkPolicy.ofPolicy policy name namespaceName pods = .error error →
      ∃ violation, policy.check = .error violation ∧
        error = .validation (.violation violation)) ∧
    ∀ object, NetworkPolicy.ofPolicy policy name namespaceName pods = .ok object →
      ((pods.map Prod.fst).Nodup →
        object.metadata = ⟨some name, some namespaceName, some pods⟩ ∧
          object.spec.map (·.pods) = some ⟨some pods⟩) ∧
      (∀ packet, object.permits packet = policy.permits packet) ∧
      ∃ spec, object.spec = some spec ∧
        ∀ direction, List.Forall₂ PolicyRule.Agrees (spec.rules direction)
          (policy.rules direction) := by
  refine ⟨⟨NetworkPolicy.of_policy_ok name namespaceName pods, ?_⟩,
    fun error => NetworkPolicy.of_policy_error, fun object hobject => ?_⟩
  · rintro ⟨object, hobject⟩
    exact (NetworkPolicy.of_policy_spec hobject).1
  · obtain ⟨-, hmetadata, spec, hspec, hpods, -, hrules⟩ := NetworkPolicy.of_policy_spec hobject
    refine ⟨fun hdistinct => ?_, NetworkPolicy.permits_of_policy hobject, spec, hspec, hrules⟩
    rw [Object.merged_of_nodup hdistinct] at hmetadata hpods
    exact ⟨hmetadata, by rw [hspec, Option.map_some, hpods]⟩

namespace Sample

/-- A policy that lets a workload reach a network over TLS, but not one part of it. -/
def coreOnly : ClusterPolicy where
  id := "4e5f6a7b-8c9d-4e0f-a1b2-c3d4e5f6a7b8"
  name := "to-core"
  ingress := []
  egress := [⟨"to core", [⟨"10.0.0.0/16", ["10.0.1.0/24"]⟩], [⟨443, "Tcp"⟩]⟩]

/-- The policy passes its check. -/
theorem check_core_only : coreOnly.check = .ok () := by
  decide +kernel

end Sample

open Cluster in
/-- A workload under such a policy reaches the network, but neither the excepted part nor another
port, and it may be reached from everywhere. -/
theorem network_policy_faithful_excepted :
    ∃ object, NetworkPolicy.ofPolicy Sample.coreOnly "np" "edge" [("app", "web")] = .ok object ∧
      object.metadata = ⟨some "np", some "edge", some [("app", "web")]⟩ ∧
      object.spec.map (·.pods) = some ⟨some [("app", "web")]⟩ ∧
      object.permits ⟨.egress, .v4 0x0a000203, 443, some .tcp⟩ = true ∧
      object.permits ⟨.egress, .v4 0x0a000103, 443, some .tcp⟩ = false ∧
      object.permits ⟨.egress, .v4 0x0a000203, 443, some .udp⟩ = false ∧
      object.permits ⟨.egress, .v4 0x0a000203, 80, some .tcp⟩ = false ∧
      object.permits ⟨.ingress, .v4 0x0a000103, 80, none⟩ = true := by
  obtain ⟨htranslated, -, hfaithful⟩ :=
    network_policy_faithful Sample.coreOnly "np" "edge" [("app", "web")]
  obtain ⟨object, hobject⟩ := htranslated.1 Sample.check_core_only
  obtain ⟨hlabels, hpermits, -⟩ := hfaithful object hobject
  obtain ⟨hmetadata, hpods⟩ := hlabels (by simp)
  refine ⟨object, hobject, hmetadata, hpods, ?_⟩
  simp only [hpermits]
  decide +kernel

end EdgeFleet
