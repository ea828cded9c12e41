import EdgeFleet.Proofs.Broker.Route
import EdgeFleet.Proofs.Net.Address

/-!
# Ports that are dialled

Which port an address leads to that a broker dials. The host of a node is what it registered without
a port, and the port of the surface is put behind it. A slash, a question mark or a number sign in
what was registered ends the authority of the address before that, so that the port of the surface
comes too late, and a port before the sign stays (`dialled_port`).
-/

namespace EdgeFleet

namespace Uri

/-- Whether a text holds nothing that ends an authority. -/
def Continues (cs : List Char) : Prop :=
  ∀ c ∈ cs, continuesAuthority c = true

instance (cs : List Char) : Decidable (Continues cs) :=
  List.decidableBAll (fun c => continuesAuthority c = true) cs

theorem Continues.append {cs others : List Char} (h : Continues cs) (hothers : Continues others) :
    Continues (cs ++ others) := by
  intro c hc
  rcases List.mem_append.1 hc with hfirst | hsecond
  · exact h c hfirst
  · exact hothers c hsecond

/-- Whether two texts are one to an authority: either of them holds nothing that ends it, or both
end it after the same characters. -/
def EndAlike (cs others : List Char) : Prop :=
  (Continues cs ∧ Continues others) ∨
    (¬ Continues cs ∧ ¬ Continues others ∧ authorityOf cs = authorityOf others)

namespace EndAlike

variable {cs others more : List Char}

theorem refl (cs : List Char) : EndAlike cs cs := by
  by_cases h : Continues cs
  · exact .inl ⟨h, h⟩
  · exact .inr ⟨h, h, rfl⟩

theorem trans (h : EndAlike cs others) (hmore : EndAlike others more) : EndAlike cs more := by
  rcases h with ⟨hcs, hothers⟩ | ⟨hcs, hothers, heq⟩ <;>
    rcases hmore with ⟨hothers', hmore⟩ | ⟨hothers', hmore, heq'⟩
  · exact .inl ⟨hcs, hmore⟩
  · exact absurd hothers hothers'
  · exact absurd hothers' hothers
  · exact .inr ⟨hcs, hmore, heq.trans heq'⟩

/-- A text and what follows it are one with the text alone if this follows without an end. -/
theorem of_append (cs : List Char) {rest : List Char} (hrest : Continues rest) :
    EndAlike cs (cs ++ rest) := by
  by_cases h : Continues cs
  · exact .inl ⟨h, h.append hrest⟩
  · have happend : ¬ Continues (cs ++ rest) := fun hall =>
      h fun c hc => hall c (List.mem_append_left rest hc)
    exact .inr ⟨h, happend, (authority_of_append h rest).symm⟩

end EndAlike

end Uri

open Uri

/-! ### Hosts -/

/-- Characters of addresses go on with an authority. -/
theorem Net.continues_of_address_char {c : Char} (h : isAddressChar c = true) :
    continuesAuthority c = true := by
  by_contra hends
  have hc : (c = '/' ∨ c = '?') ∨ c = '#' := by
    simpa only [continuesAuthority, Endpoint.endsAuthority, Bool.not_eq_true', Bool.not_eq_false,
      Bool.or_eq_true, beq_iff_eq] using hends
  rcases hc with (rfl | rfl) | rfl <;> exact absurd h (by decide)

/-- So nothing that is read as an address, or written for one, ends an authority. -/
theorem Net.IsPlain.continues {cs : List Char} (h : IsPlain cs) : Continues cs :=
  fun c hc => continues_of_address_char (h c hc)

/-- Nor do decimal digits. -/
theorem continues_of_digit {c : Char} (h : Text.IsDigit 10 c) : continuesAuthority c = true := by
  have hradix : 10 ≤ 16 := by decide
  have hplain : Net.IsPlain [c] := Net.is_plain_of_digits hradix (List.forall_mem_singleton.2 h)
  exact hplain.continues c (List.mem_singleton_self c)

/-- Cutting a port off makes no difference to an authority. -/
theorem without_port_alike (text : String) :
    EndAlike (withoutPort text).toList text.toList := by
  unfold withoutPort
  rw [List.span_eq_takeWhile_dropWhile]
  dsimp only
  split
  · rename_i port hrest
    split
    · rename_i hport
      obtain ⟨value, hvalue⟩ := Option.isSome_iff_exists.1 hport
      have hcut : Continues (':' :: port) := by
        refine List.forall_mem_cons.2 ⟨by decide, fun c hc => ?_⟩
        rcases Text.nat_below_all hvalue c hc with rfl | hdigit
        · decide
        · exact continues_of_digit hdigit
      have htext : text.toList = text.toList.takeWhile (· != ':') ++ ':' :: port := by
        rw [← hrest]
        exact List.takeWhile_append_dropWhile.symm
      rw [String.toList_ofList]
      conv => rhs; rw [htext]
      exact .of_append _ hcut
    · exact .refl _
  · exact .refl _

/-- Nor does reading the host of what was registered. -/
theorem target_host_alike (target : String) :
    EndAlike (targetHost target).toList target.toList := by
  unfold targetHost
  split
  · rename_i address haddress
    have hhost := (Net.Address.render_plain address.address).continues
    exact .inl ⟨hhost, (Net.SocketAddress.parse_plain haddress).continues⟩
  · split
    · exact .refl _
    · exact without_port_alike target

/-- Nor do brackets, which only addresses are put into. -/
theorem Broker.authority_host_alike (host : String) :
    EndAlike (authorityHost host).toList host.toList := by
  unfold authorityHost
  split
  · rename_i bits haddress
    have hhost := (Net.Address.parse_plain haddress).continues
    rw [String.toList_append, String.toList_append]
    exact .inl ⟨.append (.append (by decide) hhost) (by decide), hhost⟩
  · exact .refl _

/-! ### Ports -/

namespace Broker

variable {broker : Broker} {nodeId target : String} {surface : Agent.Surface} {route : Route}

/-- The authority that an address is read from ends in the port of the surface, unless what was
registered ends it before. -/
theorem place_port (broker : Broker) (target : String) (surface : Agent.Surface) :
    portOf? (authorityOf (broker.place (targetHost target) surface).toList) =
      if Continues target.toList then some (broker.port surface).toNat
      else portOf? (authorityOf target.toList) := by
  have hplace : (broker.place (targetHost target) surface).toList =
      (authorityHost (targetHost target)).toList ++
        ':' :: (toString (broker.port surface).toNat).toList := by
    unfold place
    rw [String.toList_append, String.toList_append, List.append_assoc]
    rfl
  have hdigits := Text.is_digit_of_nat (broker.port surface).toNat
  rw [hplace]
  rcases (authority_host_alike _).trans (target_host_alike target) with
    ⟨hhost, htarget⟩ | ⟨hhost, htarget, heq⟩
  · have hport : Continues (':' :: (toString (broker.port surface).toNat).toList) :=
      List.forall_mem_cons.2 ⟨by decide, fun c hc => continues_of_digit (hdigits c hc)⟩
    have hcolon : ':' ∉ (toString (broker.port surface).toNat).toList :=
      fun hmem => absurd (hdigits _ hmem) (by decide)
    rw [if_pos htarget, authority_of_all (hhost.append hport), port_of_append _ hcolon]
    exact Text.digits_of_nat _
  · rw [if_neg htarget, authority_of_append hhost, heq]

/-- A route to a node leads to the port of the surface, unless what the node registered ends the
authority of an address; then it leads to the port that is written there before the end. -/
theorem route_port (htarget : broker.directory.targets nodeId = .ok [target])
    (h : broker.route nodeId surface = .ok route) :
    route.surface = surface ∧ port? route.endpoint.render =
      if Continues target.toList then some (broker.port surface).toNat
      else portOf? (authorityOf target.toList) := by
  have hhost : broker.resolve nodeId = .ok (targetHost target) := by
    unfold resolve
    rw [htarget]
    rfl
  obtain ⟨host, endpoint, tls, hhost', hendpoint, -, rfl⟩ := route_iff.1 h
  rw [hhost] at hhost'
  obtain rfl := Except.ok.inj hhost'
  refine ⟨rfl, ?_⟩
  rw [port?, Endpoint.authority_render hendpoint, Option.bind_some, place_port]

end Broker

/-- Whatever is dialled for a node that has registered once is the surface that was asked for, at
the port that the broker has for this surface, as long as what was registered has no slash, question
mark or number sign. Otherwise it is at the port that is written before the first of these, if
any. -/
theorem dialled_port {σ : Type} {broker : Broker} {nodeId target : String}
    (htarget : broker.directory.targets nodeId = .ok [target]) (surface : Agent.Surface)
    (world : World σ) (operation : String) (state : σ) :
    ∀ call ∈ ((broker.connect nodeId surface).exchanges world operation state).map Exchange.call,
      ∃ route, call = .dial nodeId route ∧ route.surface = surface ∧
        port? route.endpoint.render =
          if Continues target.toList then some (broker.port surface).toNat
          else portOf? (authorityOf target.toList) := by
  intro call hcall
  obtain ⟨route, hroute, rfl⟩ := Broker.dials_route hcall
  exact ⟨route, rfl, Broker.route_port htarget hroute⟩

open Sample in
/-- Reaches every node at what it has registered, unencrypted. -/
def Sample.registered (target : String) : Broker :=
  .ofSettings .standard ⟨fun _ => .ok [target], broker.directory.node⟩ library none

open Sample in
/-- A registered port gives way to the one of the surface. -/
theorem dialled_port_replaced :
    let calls := (((registered "10.0.0.5:9999").connect node.id .eva).exchanges Script.world
      "connect" (script bare [])).map Exchange.call
    calls.length = 1 ∧ ∀ call ∈ calls, ∃ route, call = .dial node.id route ∧
      route.surface = .eva ∧ port? route.endpoint.render = some 42102 := by
  refine ⟨by decide +kernel, fun call hcall => ?_⟩
  have htarget : (registered "10.0.0.5:9999").directory.targets node.id =
      .ok ["10.0.0.5:9999"] := rfl
  obtain ⟨route, hdial, hsurface, hport⟩ :=
    dialled_port htarget .eva Script.world _ _ call hcall
  have hcontinues : Continues "10.0.0.5:9999".toList := by decide +kernel
  rw [if_pos hcontinues] at hport
  exact ⟨route, hdial, hsurface, hport⟩

open Sample in
/-- A registered port with a slash behind it stays, and the surface is not asked for at its own. -/
theorem registered_port_stays :
    let broker := registered "edge-1.example.net:9999/x"
    ∃ route, ((broker.connect node.id .eva).exchanges Script.world "connect"
        (script bare [])).map Exchange.call = [.dial node.id route] ∧
      port? route.endpoint.render = some 9999 ∧ (broker.port .eva).toNat = 42102 := by
  refine ⟨⟨.eva, ⟨.http, "edge-1.example.net:9999", ⟨"/x:42102", none⟩⟩, none⟩, ?_, ?_, rfl⟩
  · decide +kernel
  · decide +kernel

end EdgeFleet
