import EdgeFleet.Proofs.Check
import EdgeFleet.Record.TrafficPolicy

/-!
# Ports that pass their checks

Which numbers are those of ports, and what the checks of a workload and of a rule for a node make
sure of about the ports in them.
-/

namespace EdgeFleet

/-- Whether a number is that of a port. Zero is not. -/
def IsPort (number : Nat) : Prop :=
  1 ≤ number ∧ number ≤ maxPort

instance (number : Nat) : Decidable (IsPort number) :=
  inferInstanceAs (Decidable (_ ∧ _))

/-- A number that is small enough is the same with a sign. -/
theorem signed_eq {value : UInt32} (h : value.toNat < 0x80000000) :
    value.toInt32.toInt = value.toNat := by
  have hbits : 2 * value.toBitVec.toNat < 2 ^ 32 := by
    rw [UInt32.toNat_toBitVec]
    omega
  exact BitVec.toInt_eq_toNat_of_lt hbits

/-- The range of ports is the one that is checked. -/
theorem Check.port_passes {place : Place} {number : Nat} :
    Check.range place number 1 maxPort = .ok () ↔ IsPort number := by
  simp [range, require_passes, IsPort]

/-- A workload that passes its check exposes ports only. -/
theorem Workload.exposes_ports {workload : Workload} (h : workload.check = .ok ()) :
    ∀ exposed ∈ workload.ports, IsPort exposed.port.toNat := by
  cases workload with
  | vnf vnf => exact nofun
  | app app =>
      have hports := (Check.bind_passes.1 (Check.bind_passes.1 h).2).2
      exact Check.each_mem hports fun _ _ hport =>
        Check.port_passes.1 (Check.inside_passes.1 hport)

/-- A match by port range that passes its check has a range of ports. -/
theorem IpFilter.matches_ports {filter : IpFilter} (h : filter.check = .ok ()) :
    IsPort filter.beginPort.toNat ∧ IsPort filter.endPort.toNat ∧
      filter.beginPort ≤ filter.endPort := by
  simp only [check, Check.bind_passes, Check.port_passes, Check.require_passes,
    decide_eq_true_eq] at h
  obtain ⟨-, -, hbegin, hend, hrange, -⟩ := h
  exact ⟨hbegin, hend, hrange⟩

/-- A new destination that passes its check has a port. -/
theorem IpRedirect.leads_to_port {redirect : IpRedirect} (h : redirect.check = .ok ()) :
    IsPort redirect.port.toNat := by
  simp only [check, Check.bind_passes, Check.port_passes] at h
  exact h.2

end EdgeFleet
