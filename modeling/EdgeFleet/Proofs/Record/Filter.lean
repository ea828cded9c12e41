import EdgeFleet.Proofs.Check
import EdgeFleet.Proofs.Net.Network
import EdgeFleet.Proofs.Net.RoundTrip
import EdgeFleet.Record.TrafficPolicy

/-!
# Filters that pass their checks

What the check of a policy for a node makes sure of about the selectors in it
(`filters_of_policy`). Each of them has a filter, though the list of a MAC filter may be empty, and
each address is one. The number of leading bits is compared with the size of the larger family
only, so that an IPv6 address always makes a network with it, and an IPv4 address as long as it does
not ask for more than 32 bits (`Masked.is_network_iff`).
-/

namespace EdgeFleet

open Net Text

/-- An address with the number of its leading bits that count, as filters give them. -/
structure Masked where
  address : String
  mask : UInt32
  deriving DecidableEq

namespace Masked

/-- The text of the network that is meant. -/
def text (masked : Masked) : String :=
  masked.address ++ "/" ++ toString masked.mask.toNat

/-- Whether the address and the leading bits are those of a network. -/
def IsNetwork (masked : Masked) : Prop :=
  ∃ network, Network.Names masked.text network ∧
    Address.parse? masked.address = some network.base ∧ masked.mask.toNat = network.length

end Masked

namespace Selector

/-- Whether a selector asks for something of traffic. -/
def isConcrete (selector : Selector) : Bool :=
  selector.ip.isSome || selector.gtp.isSome ||
    selector.macs.any fun filter => !filter.addresses.isEmpty

/-- The networks that a selector asks for. -/
def networks (selector : Selector) : List Masked :=
  (selector.ip.toList.map fun filter => ⟨filter.address, filter.mask⟩) ++
    selector.gtp.toList.map fun filter => ⟨filter.address, filter.mask⟩

/-- Whether the only filter of a selector is a MAC filter without addresses. -/
def IsVague (selector : Selector) : Prop :=
  selector.macs = some ⟨[]⟩ ∧ selector.ip = none ∧ selector.gtp = none

end Selector

/-- The selectors of a rule. -/
def TrafficRule.selectors (rule : TrafficRule) : List Selector :=
  rule.source.toList ++ rule.destination.toList

/-! ### Networks -/

namespace Net

/-- A number is not an IPv4 address. -/
theorem Address.parse_v4_of_nat (n : Nat) : parseV4? (toString n).toList = none := by
  cases h : parseV4? (toString n).toList with
  | none => rfl
  | some bits =>
      have htext := (leading_v4_iff.1 (parse_v4_iff.1 h)).1
      rw [render_v4_eq rfl []] at htext
      -- Four octets have points between them, and no digit is a point.
      have hpoint : '.' ∈ (toString n).toList := by
        rw [htext]
        simp
      exact absurd (is_digit_of_nat n '.' hpoint) (by decide)

namespace Network

/-- A number of leading bits is read from what is written for it. -/
theorem length_of_nat {width n : Nat} (hwidth : width < 256) (h : n ≤ width) :
    length? width (toString n).toList = some n := by
  rw [length?, nat_below_of_nat (Nat.lt_of_le_of_lt h hwidth)]
  simpa using h

theorem length_v4_of_nat {n : Nat} (h : n ≤ 32) : lengthV4? (toString n).toList = some n := by
  rw [lengthV4?, Address.parse_v4_of_nat]
  exact length_of_nat (by decide) h

end Network

end Net

/-- An address makes a network with as many leading bits as it has, or fewer. -/
theorem Masked.is_network_iff {masked : Masked} {address : Address}
    (haddress : Address.parse? masked.address = some address) :
    masked.IsNetwork ↔ masked.mask.toNat ≤ address.width := by
  constructor
  · rintro ⟨network, hnames, hbase, hlength⟩
    rw [Option.some.inj (haddress.symm.trans hbase), hlength]
    exact hnames.length_le
  · intro h
    have hslash : "/".toList = ['/'] := rfl
    obtain ⟨bits, rfl, hread⟩ | ⟨bits, rfl, hread⟩ := Address.parse_iff.1 haddress
    · refine ⟨.v4 bits masked.mask.toNat, .v4 ?_ (Address.parse_v4_iff.2 hread)
        (Network.length_v4_of_nat h), haddress, rfl⟩
      simp [text, hslash]
    · refine ⟨.v6 bits masked.mask.toNat, .v6 ?_ (Address.parse_v6_iff.2 hread)
        (Network.length_of_nat (by decide) h), haddress, rfl⟩
      simp [text, hslash]

/-! ### What passes its check -/

/-- Whether a number of leading bits and an address go together, as far as is checked: the address
is one, and there are no more bits than an IPv6 address has. -/
def Masked.IsReadable (masked : Masked) : Prop :=
  (Address.parse? masked.address).isSome ∧ masked.mask.toNat ≤ 128

/-- A number of leading bits that is checked fits an IPv6 address, and an IPv4 address if it is not
too large. -/
theorem Masked.IsReadable.is_network_iff {masked : Masked} (h : masked.IsReadable) :
    masked.IsNetwork ↔
      ∀ bits, Address.parse? masked.address = some (.v4 bits) → masked.mask.toNat ≤ 32 := by
  obtain ⟨address, haddress⟩ := Option.isSome_iff_exists.1 h.1
  rw [Masked.is_network_iff haddress, haddress]
  cases address with
  | v4 bits => simp [Address.width]
  | v6 bits => simpa [Address.width] using h.2

/-- An address with leading bits passes the two checks of a filter if it is readable. -/
theorem Check.masked_passes {address : String} {mask : UInt32} :
    Check.address "address" address = .ok () ∧ Check.range "mask" mask.toNat 0 128 = .ok () ↔
      Masked.IsReadable ⟨address, mask⟩ := by
  simp [Check.address, Check.range, Check.require_passes, Masked.IsReadable]

namespace Selector

variable {selector : Selector}

/-- A selector that passes its check asks for something, unless all that it has is a MAC filter
without addresses. -/
theorem concrete_of_check (h : selector.check = .ok ()) :
    selector.isConcrete = true ↔ ¬ selector.IsVague := by
  simp only [check, Check.bind_passes, Check.require_passes] at h
  obtain ⟨-, hfilter, -⟩ := h
  obtain ⟨description, macs, ip, gtp⟩ := selector
  -- The case without any filter is the one that the check refuses.
  match macs, ip, gtp, hfilter with
  | _, some _, _, _ => simp [isConcrete, IsVague]
  | _, none, some _, _ => simp [isConcrete, IsVague]
  | some ⟨[]⟩, none, none, _ => simp [isConcrete, IsVague]
  | some ⟨_ :: _⟩, none, none, _ => simp [isConcrete, IsVague]

theorem readable_of_check (h : selector.check = .ok ()) :
    ∀ masked ∈ selector.networks, masked.IsReadable := by
  simp only [check, Check.bind_passes] at h
  obtain ⟨-, -, -, hip, hgtp⟩ := h
  refine List.forall_mem_append.2 ⟨List.forall_mem_map.2 fun filter hfilter => ?_,
    List.forall_mem_map.2 fun filter hfilter => ?_⟩
  · rw [Option.mem_def.1 (Option.mem_toList.1 hfilter)] at hip
    have hpasses := Check.inside_passes.1 hip
    simp only [IpFilter.check, Check.bind_passes] at hpasses
    exact Check.masked_passes.1 ⟨hpasses.1, hpasses.2.1⟩
  · rw [Option.mem_def.1 (Option.mem_toList.1 hfilter)] at hgtp
    have hpasses := Check.inside_passes.1 hgtp
    simp only [GtpFilter.check, Check.bind_passes] at hpasses
    exact Check.masked_passes.1 ⟨hpasses.2.1, hpasses.2.2.1⟩

end Selector

namespace TrafficRule

/-- A part of a rule that must be there is there, and passes its check. -/
theorem check_part_passes {α : Type} {name : String} {check : α → Check} {part : Option α}
    (h : checkPart name check part = .ok ()) :
    ∃ found, part = some found ∧ check found = .ok () := by
  cases part with
  | none => cases h
  | some found => exact ⟨found, rfl, Check.inside_passes.1 h⟩

variable {rule : TrafficRule} (h : rule.check = .ok ())
include h

/-- A rule that passes its check has two selectors, which pass theirs. -/
theorem selectors_pass :
    rule.source.isSome ∧ rule.destination.isSome ∧
      ∀ selector ∈ rule.selectors, selector.check = .ok () := by
  simp only [check, Check.bind_passes] at h
  obtain ⟨-, -, hsource, hdestination, -⟩ := h
  obtain ⟨source, hsource, hsourcePasses⟩ := check_part_passes hsource
  obtain ⟨destination, hdestination, hdestinationPasses⟩ := check_part_passes hdestination
  rw [selectors, hsource, hdestination]
  exact ⟨rfl, rfl, by simpa using ⟨hsourcePasses, hdestinationPasses⟩⟩

/-- It has an outcome, which passes its check. -/
theorem target_passes : ∃ target, rule.target = some target ∧ target.check = .ok () := by
  simp only [check, Check.bind_passes] at h
  exact check_part_passes h.2.2.2.2

end TrafficRule

/-- The rules of a policy that passes its check pass theirs. -/
theorem TrafficPolicy.rules_pass {policy : TrafficPolicy} (h : policy.check = .ok ()) :
    ∀ rule ∈ policy.rules, rule.check = .ok () := by
  simp only [check, Check.bind_passes] at h
  exact Check.each_mem h.2.2 fun _ _ => Check.inside_passes.1

/-- Every rule of a policy that passes its check has a source and a destination. Each asks for
something, unless its only filter is a MAC filter without addresses. Each address that is matched in
one of them is one, with no more leading bits than an IPv6 address has, so that it is a network
unless it is an IPv4 address with more bits than this one has. -/
theorem filters_of_policy {policy : TrafficPolicy} (h : policy.check = .ok ()) :
    ∀ rule ∈ policy.rules, rule.source.isSome ∧ rule.destination.isSome ∧
      ∀ selector ∈ rule.selectors, (selector.isConcrete = true ↔ ¬ selector.IsVague) ∧
        ∀ masked ∈ selector.networks, masked.IsReadable ∧
          (masked.IsNetwork ↔
            ∀ bits, Address.parse? masked.address = some (.v4 bits) → masked.mask.toNat ≤ 32) := by
  intro rule hrule
  obtain ⟨hsource, hdestination, hselectors⟩ :=
    TrafficRule.selectors_pass (TrafficPolicy.rules_pass h rule hrule)
  refine ⟨hsource, hdestination, fun selector hselector => ?_⟩
  have hpasses := hselectors selector hselector
  refine ⟨Selector.concrete_of_check hpasses, fun masked hmasked => ?_⟩
  have hreadable := Selector.readable_of_check hpasses masked hmasked
  exact ⟨hreadable, hreadable.is_network_iff⟩

namespace Sample

/-- A policy that leads traffic between selectors to a cache. -/
def between (source destination : Selector) : TrafficPolicy where
  id := "7c9e6679-7425-40de-944b-e07fc1f90ae7"
  rules := [{
    description := "to the cache"
    priority := 1
    source := some source
    destination := some destination
    target := some ⟨"cache", "accept", none, some ⟨"192.0.2.80", 80⟩⟩ }]

/-- A match of one network, by its address and leading bits. -/
def clients (address : String) (mask : UInt32) : Selector :=
  ⟨"clients", none, some ⟨address, mask, 1000, 2000, "tcp"⟩, none⟩

/-- A match of no address. -/
def nobody : Selector :=
  ⟨"nobody", some ⟨[]⟩, none, none⟩

end Sample

open Sample in
/-- An IPv6 address may have more leading bits than an IPv4 address has bits. -/
theorem filters_of_policy_larger_family :
    (clients "2001:db8::" 33).isConcrete = true ∧ Masked.IsNetwork ⟨"2001:db8::", 33⟩ := by
  have hcheck : (between (clients "2001:db8::" 33) nobody).check = .ok () := by decide +kernel
  have hv6 : ∀ bits, Address.parse? "2001:db8::" ≠ some (.v4 bits) := by
    intro bits
    rw [show Address.parse? "2001:db8::" = some (.v6 0x20010db8000000000000000000000000) by
      decide +kernel]
    simp
  obtain ⟨-, -, hselectors⟩ := filters_of_policy hcheck _ (List.mem_singleton_self _)
  obtain ⟨hconcrete, hnetworks⟩ := hselectors (clients "2001:db8::" 33) (List.mem_cons_self ..)
  obtain ⟨-, hnetwork⟩ := hnetworks _ (List.mem_singleton_self _)
  exact ⟨hconcrete.2 (by simp [Selector.IsVague, clients]),
    hnetwork.2 fun bits h => absurd h (hv6 bits)⟩

open Sample in
/-- A policy passes its check whose source asks for nothing and whose destination has more leading
bits than its address has, so that it is no network. -/
theorem vague_policy_passes :
    let policy := between nobody (clients "10.16.0.0" 33)
    policy.check = .ok () ∧
      (∃ rule ∈ policy.rules, ∃ selector ∈ rule.selectors, selector.isConcrete = false) ∧
      ∃ rule ∈ policy.rules, ∃ selector ∈ rule.selectors, ∃ masked ∈ selector.networks,
        ¬ masked.IsNetwork := by
  have hv4 : Address.parse? "10.16.0.0" = some (.v4 0x0A100000) := by decide +kernel
  refine ⟨by decide +kernel, ⟨_, List.mem_singleton_self _, nobody, List.mem_cons_self .., rfl⟩,
    _, List.mem_singleton_self _, clients "10.16.0.0" 33, by simp [TrafficRule.selectors],
    ⟨"10.16.0.0", 33⟩, List.mem_singleton_self _, ?_⟩
  rw [Masked.is_network_iff hv4]
  decide

end EdgeFleet
