import EdgeFleet.Proofs.Check
import EdgeFleet.Proofs.Net.Network
import EdgeFleet.Record.ClusterPolicy

/-!
# Blocks of addresses

A block passes its check exactly if it and its exceptions are networks in text, and each exception
has some but not all of the addresses of the block (`ip_block_passes_iff`).
-/

namespace EdgeFleet

open Net

namespace IpBlock

/-- The networks of texts are those that they name, with the bits cleared that do not count. -/
theorem checked_network_iff {text : String} {found : Network} :
    checkedNetwork text = .ok found ↔
      ∃ written, Network.Names text written ∧ written.masked = found := by
  rw [checkedNetwork, map_error_ok, network]
  constructor
  · intro h
    split at h
    · cases hparse : Network.parse? text with
      | none => simp [hparse] at h
      | some parsed =>
          rw [hparse] at h
          exact Except.ok.inj h ▸ Network.exists_names hparse
    · cases h
  · rintro ⟨written, hnames, rfl⟩
    rw [if_pos hnames.has_slash, hnames.parse]

/-- An exception passes if its base is in the block and more of its bits count, as such a network is
not the same as the block. -/
theorem check_except_passes {cidr except : String} {parent : Network} :
    checkExcept cidr parent except = .ok () ↔ ∃ child, checkedNetwork except = .ok child ∧
      parent.contains child.base = true ∧ parent.length < child.length := by
  constructor
  · intro h
    obtain ⟨child, hchild, h⟩ := bind_ok h
    simp only [Check.bind_passes, Check.require_passes, decide_eq_true_eq] at h
    exact ⟨child, hchild, h.2⟩
  · rintro ⟨child, hchild, hbase, hlength⟩
    have hne : child ≠ parent := fun heq => absurd hlength (heq ▸ Nat.lt_irrefl _)
    rw [checkExcept, hchild]
    simp only [bind, Except.bind]
    simp [Check.require, hne, hbase, hlength]

/-- An exception passes exactly if it is a proper part of the block. -/
theorem check_except_iff {cidr except : String} {whole : Network}
    (hwhole : whole.length ≤ whole.width) :
    checkExcept cidr whole.masked except = .ok () ↔
      ∃ part, Network.Names except part ∧ part.addresses ⊂ whole.addresses := by
  have hmasked : whole.masked.length ≤ whole.masked.width := by simpa using hwhole
  have hpart : ∀ part : Network, part.length ≤ part.width →
      (part.addresses ⊂ whole.addresses ↔
        whole.masked.contains part.masked.base = true ∧
          whole.masked.length < part.masked.length) := by
    intro part hlength
    rw [← Network.addresses_masked hlength, ← Network.addresses_masked hwhole,
      Network.ssubset_iff (by simpa using hlength), Network.contains_iff hmasked]
  rw [check_except_passes]
  constructor
  · rintro ⟨child, hchild, h⟩
    obtain ⟨part, hnames, rfl⟩ := checked_network_iff.1 hchild
    exact ⟨part, hnames, (hpart part hnames.length_le).2 h⟩
  · rintro ⟨part, hnames, h⟩
    exact ⟨part.masked, checked_network_iff.2 ⟨part, hnames, rfl⟩,
      (hpart part hnames.length_le).1 h⟩

/-- A block passes exactly if it is a network in text and all its exceptions are proper parts of
it. -/
theorem check_passes_iff {block : IpBlock} :
    block.check = .ok () ↔ ∃ whole, Network.Names block.cidr whole ∧
      ∀ except ∈ block.except,
        ∃ part, Network.Names except part ∧ part.addresses ⊂ whole.addresses := by
  constructor
  · intro h
    obtain ⟨parent, hparent, h⟩ := bind_ok h
    obtain ⟨whole, hnames, rfl⟩ := checked_network_iff.1 hparent
    refine ⟨whole, hnames, Check.each_mem h fun i except hpasses => ?_⟩
    exact (check_except_iff hnames.length_le).1 (Check.inside_passes.1 hpasses)
  · rintro ⟨whole, hnames, hexcept⟩
    have hparent := checked_network_iff.2 ⟨whole, hnames, rfl⟩
    have hall : Check.each (fun i except => Check.inside (.item "except" i)
        (checkExcept block.cidr whole.masked except)) block.except = .ok () :=
      Check.each_passes.2 fun i hi => Check.inside_passes.2
        ((check_except_iff hnames.length_le).2 (hexcept _ (List.getElem_mem hi)))
    rw [check, hparent]
    exact hall

end IpBlock

/-- A block passes its check exactly if it is a network in text and each of its exceptions is one of
the same family that has some but not all of its addresses. Then no exception has the same
addresses, has all of them and more, lies across the border of the block or is apart from it. -/
theorem ip_block_passes_iff (block : IpBlock) :
    (block.check = .ok () ↔
      ∃ whole, Network.Names block.cidr whole ∧ ∀ except ∈ block.except,
        ∃ part, Network.Names except part ∧ part.width = whole.width ∧
          part.addresses ⊂ whole.addresses) ∧
    (block.check = .ok () → ∀ whole, Network.Names block.cidr whole →
      ∀ except ∈ block.except, ∀ part, Network.Names except part →
        part.addresses ≠ whole.addresses ∧ ¬ whole.addresses ⊆ part.addresses ∧
        part.addresses ⊆ whole.addresses ∧ (part.addresses ∩ whole.addresses).Nonempty) := by
  rw [IpBlock.check_passes_iff]
  refine ⟨?_, ?_⟩
  · refine exists_congr fun whole => and_congr_right' (forall₂_congr fun except _ =>
      exists_congr fun part => and_congr_right' ?_)
    exact ⟨fun h => ⟨Network.width_eq_of_subset h.1, h⟩, And.right⟩
  · rintro ⟨found, hfound, hexcept⟩ whole hwhole except hmem part hpart
    obtain ⟨known, hknown, hproper⟩ := hexcept except hmem
    rw [hknown.addresses_eq hpart, hfound.addresses_eq hwhole] at hproper
    exact ⟨hproper.ne, hproper.2, hproper.1, part.base, Network.base_mem,
      hproper.1 Network.base_mem⟩

/-- The bits of an address behind the first ones do not matter. -/
theorem ip_block_passes_host_bits :
    ∃ whole part, Network.Names "10.0.0.7/16" whole ∧ Network.Names "10.0.1.9/24" part ∧
      part.addresses ⊂ whole.addresses := by
  have hcheck : IpBlock.check ⟨"10.0.0.7/16", ["10.0.1.9/24"]⟩ = .ok () := by decide +kernel
  obtain ⟨whole, hwhole, hexcept⟩ := (ip_block_passes_iff _).1.1 hcheck
  obtain ⟨part, hpart, -, hproper⟩ := hexcept "10.0.1.9/24" (by simp)
  exact ⟨whole, part, hwhole, hpart, hproper⟩

end EdgeFleet
