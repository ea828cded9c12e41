import EdgeFleet.Broker
import EdgeFleet.Proofs.Net.RoundTrip

/-!
# Hosts of registered addresses

What a node registered is its host, with or without a port. Of the forms that it may have the first
that fits counts: an address with a port, an address, a name with a port. `targetHost` cuts off the
port and nothing else (`target_host_strips_port`).
-/

namespace EdgeFleet

open Net Text

/-! ### Names -/

/-- A text without a colon has no port. -/
theorem without_port_of_no_colon {text : String} (h : ':' ∉ text.toList) :
    withoutPort text = text := by
  have hall : ∀ c ∈ text.toList, (c != ':') = true := fun c hc =>
    bne_iff_ne.2 fun heq => h (heq ▸ hc)
  rw [withoutPort, List.span_eq_takeWhile_dropWhile, List.dropWhile_eq_nil_iff.2 hall]

/-- The first colon of a text is the one that counts. -/
theorem without_port_of_colon {text : String} {host port : List Char}
    (htext : text.toList = host ++ ':' :: port) (hhost : ':' ∉ host) :
    withoutPort text = if (natBelow? 65536 port).isSome then String.ofList host else text := by
  simp only [withoutPort, htext, span_mark hhost port]

/-- A text is left as it is, or what is left of it has no colon. -/
theorem without_port_cases (text : String) :
    withoutPort text = text ∨ ':' ∉ (withoutPort text).toList := by
  by_cases hcolon : ':' ∈ text.toList
  · obtain ⟨host, port, htext, hhost⟩ := List.eq_append_cons_of_mem hcolon
    rw [without_port_of_colon htext hhost]
    split
    · exact .inr (by rwa [String.toList_ofList])
    · exact .inl rfl
  · exact .inl (without_port_of_no_colon hcolon)

/-! ### Targets -/

/-- The host of an address with a port is the address. -/
theorem target_host_of_socket {target : String} {socket : SocketAddress}
    (h : SocketAddress.parse? target = some socket) :
    targetHost target = socket.address.render := by
  simp only [targetHost, h]

/-- An address is its own host. -/
theorem target_host_of_address {target : String} {address : Address}
    (h : Address.parse? target = some address) : targetHost target = target := by
  simp [targetHost, SocketAddress.parse_of_address h, h]

/-- Any other text is a name. -/
theorem target_host_of_name {target : String} (hsocket : SocketAddress.parse? target = none)
    (haddress : Address.parse? target = none) : targetHost target = withoutPort target := by
  simp [targetHost, hsocket, haddress]

/-- So is a text without a colon. -/
theorem target_host_of_no_colon {target : String} (h : ':' ∉ target.toList) :
    targetHost target = target := by
  have hsocket : SocketAddress.parse? target = none := by
    rw [Option.eq_none_iff_forall_ne_some]
    exact fun socket hsocket => h (SocketAddress.parse_iff.1 hsocket).colons.1
  cases haddress : Address.parse? target with
  | some address => exact target_host_of_address haddress
  | none => rw [target_host_of_name hsocket haddress, without_port_of_no_colon h]

/-- A host is its own host. -/
theorem target_host_idem (target : String) :
    targetHost (targetHost target) = targetHost target := by
  cases hsocket : SocketAddress.parse? target with
  | some socket =>
      rw [target_host_of_socket hsocket]
      exact target_host_of_address (Address.parse_render socket.address)
  | none =>
      cases haddress : Address.parse? target with
      | some address => rw [target_host_of_address haddress, target_host_of_address haddress]
      | none =>
          rw [target_host_of_name hsocket haddress]
          obtain hself | hcolon := without_port_cases target
          · rw [hself, target_host_of_name hsocket haddress, hself]
          · exact target_host_of_no_colon hcolon

/-- A name with a port behind it. -/
theorem target_host_of_port {host : String} (hhost : ':' ∉ host.toList) (port : UInt16) :
    targetHost (host ++ ":" ++ toString port.toNat) = host := by
  generalize htarget : host ++ ":" ++ toString port.toNat = target
  have hdigits : ':' ∉ (toString port.toNat).toList := fun hmem =>
    absurd (is_digit_of_nat port.toNat _ hmem) (by decide)
  have htext : target.toList = host.toList ++ ':' :: (toString port.toNat).toList := by
    have hcolon : ":".toList = [':'] := rfl
    rw [← htarget, String.toList_append, String.toList_append, hcolon, List.append_assoc,
      List.singleton_append]
  have hone : target.toList.count ':' = 1 := by
    rw [htext, List.count_append, List.count_cons_self, List.count_eq_zero.2 hhost,
      List.count_eq_zero.2 hdigits]
  cases hsocket : SocketAddress.parse? target with
  | some socket =>
      -- The address ends at the only colon, as the name does.
      obtain ⟨bits, portText, haddress, hspelled⟩ :=
        (SocketAddress.parse_iff.1 hsocket).colons.2 hone
      have hsplit := congrArg (List.span (· != ':')) (hspelled.symm.trans htext)
      rw [span_mark (Address.colon_render_v4 bits), span_mark hhost] at hsplit
      have hlist : (Address.renderV4 bits).toList = host.toList := (Prod.mk.inj hsplit).1
      rw [target_host_of_socket hsocket, haddress]
      exact String.toList_injective hlist
  | none =>
      have haddress : Address.parse? target = none := by
        rw [Option.eq_none_iff_forall_ne_some]
        intro address hparse
        obtain ⟨bits, -, hread⟩ | ⟨bits, -, hread⟩ := Address.parse_iff.1 hparse
        · obtain ⟨hspelled, -⟩ := Address.leading_v4_iff.1 hread
          rw [hspelled, List.append_nil,
            List.count_eq_zero.2 (Address.colon_render_v4 bits)] at hone
          cases hone
        · have hcolons := Address.leading_v6_colons hread
          rw [hone] at hcolons
          simp at hcolons
      rw [target_host_of_name hsocket haddress, without_port_of_colon htext hhost,
        nat_below_of_nat port.toNat_lt, Option.isSome_some, if_pos rfl, String.ofList_toList]

/-- The host of what a node registered is that without the port: it is its own host, whatever was
registered; an address stays, and is what is left of an address with a port; a name stays, with or
without a port. -/
theorem target_host_strips_port :
    (∀ target, targetHost (targetHost target) = targetHost target) ∧
      (∀ (address : Address) (port : UInt16),
        targetHost (SocketAddress.render ⟨address, port.toNat⟩) = address.render ∧
          Address.parse? address.render = some address) ∧
      (∀ target address, Address.parse? target = some address → targetHost target = target) ∧
      ∀ host : String, ':' ∉ host.toList → targetHost host = host ∧
        ∀ port : UInt16, targetHost (host ++ ":" ++ toString port.toNat) = host := by
  refine ⟨target_host_idem, fun address port => ?_, fun _ _ => target_host_of_address,
    fun host hhost => ⟨target_host_of_no_colon hhost, target_host_of_port hhost⟩⟩
  exact ⟨target_host_of_socket (SocketAddress.parse_render port.toNat_lt),
    Address.parse_render address⟩

/-- An address with colons is its own host, and a name keeps nothing of the port behind it. -/
theorem target_host_strips_local :
    Address.parse? "fd00::1" = some (.v6 0xfd000000000000000000000000000001) ∧
      targetHost "fd00::1" = "fd00::1" ∧ ':' ∉ "edge.local".toList ∧
      targetHost "edge.local" = "edge.local" ∧ targetHost "edge.local:80" = "edge.local" := by
  have haddress : Address.parse? "fd00::1" = some (.v6 0xfd000000000000000000000000000001) := by
    decide +kernel
  have hhost : ':' ∉ "edge.local".toList := by decide +kernel
  have hlocal := target_host_strips_port.2.2.2 "edge.local" hhost
  exact ⟨haddress, target_host_strips_port.2.2.1 _ _ haddress, hhost, hlocal.1, hlocal.2 80⟩

end EdgeFleet
