import EdgeFleet.Agent.Message
import EdgeFleet.Cluster.Object
import EdgeFleet.Proofs.Check

/-!
# What nodes are told of a policy

A message to a node has all that a traffic policy says: `TrafficRule.ofMessage?` reads a rule from
the fields of a message and undoes its translation (`Rule.read_of_rule`). Read
`policy_message_lossless` first. It also says that the message of a policy is never the one that
takes policies away.
-/

namespace EdgeFleet

open Cluster

/-! ### Fields of a message -/

namespace Json

variable {α : Type}

/-- The value of a field of a message. -/
def field? (name : String) (read : Json → Option α) (message : Json) : Option α :=
  (message.get? name).bind read

/-- A number of 32 bits. -/
def word? (value : Json) : Option UInt32 :=
  (value.nat?.filter (· < 0x100000000)).map UInt32.ofNat

/-- A null field holds no message. -/
theorem optional_null {read : Json → Option α} {message : Json} {name : String}
    (hname : message.get? name = some .null) : Object.optional message name read = some none := by
  simp [Object.optional, present?, hname]

/-- Any other field holds one, and is read as it. -/
theorem optional_of_ne_null {read : Json → Option α} {message value : Json} {name : String}
    (hname : message.get? name = some value) (hvalue : value ≠ .null) :
    Object.optional message name read = (read value).map some := by
  have hpresent : message.present? name = some value := by
    unfold present?
    split <;> simp_all
  rw [Object.optional, hpresent]

/-- A reader that gets back every value that a writer has written. Nothing is written as null, which
stands for a message that is not there. -/
structure Faithful (read : Json → Option α) (write : α → Json) : Prop where
  read_write (value : α) : read (write value) = some value
  write_ne_null (value : α) : write value ≠ .null

namespace Faithful

variable {read : Json → Option α} {write : α → Json}

theorem text : Faithful text? .string where
  read_write _ := rfl
  write_ne_null _ := nofun

theorem word : Faithful word? fun word => (word.toNat : Json) where
  read_write word := by simp [word?, nat?, word.toNat_lt]
  write_ne_null _ := nofun

/-- What is written as a message with fields is not null. -/
theorem object {members : α → List (String × Json)}
    (h : ∀ value, read (.object (members value)) = some value) :
    Faithful read fun value => .object (members value) where
  read_write := h
  write_ne_null _ := nofun

/-- A repeated field is read back if its items are. -/
theorem list (h : Faithful read write) : Faithful (Object.listOf? read) (ofList write) where
  read_write := map_all_read h.read_write
  write_ne_null _ := nofun

theorem texts : Faithful (Object.listOf? text?) strings :=
  text.list

/-- A field with a message of its own is read back, whether the message is there or not. -/
theorem of_option (h : Faithful read write) {message : Json} {name : String} {part : Option α}
    (hname : message.get? name = some (.ofOption write part)) :
    Object.optional message name read = some part := by
  cases part with
  | none => exact optional_null hname
  | some value =>
      have hwritten : message.get? name = some (write value) := hname
      rw [optional_of_ne_null hwritten (h.write_ne_null value), h.read_write, Option.map_some]

end Faithful

end Json

/-! ### Readers of the parts of a policy -/

namespace MacFilter

/-- Reads a match by link-layer addresses from a message. -/
def ofMessage? (message : Json) : Option MacFilter := do
  return { addresses := ← message.field? "mac_addresses" (Object.listOf? Json.text?) }

theorem message_faithful :
    Json.Faithful ofMessage? fun macs => .object [("mac_addresses", .strings macs.addresses)] :=
  .object fun macs => by
    simp [ofMessage?, Json.field?, Json.get?, Json.lookup, Json.Faithful.texts.read_write]

end MacFilter

namespace IpFilter

/-- Reads a match by network, port range and protocol from a message. -/
def ofMessage? (message : Json) : Option IpFilter := do
  return {
    address := ← message.field? "address" Json.text?
    mask := ← message.field? "mask" Json.word?
    beginPort := ← message.field? "begin_port" Json.word?
    endPort := ← message.field? "end_port" Json.word?
    protocol := ← message.field? "protocol" Json.text? }

theorem message_faithful :
    Json.Faithful ofMessage? fun ip => .object [
      ("address", .string ip.address), ("mask", (ip.mask.toNat : Json)),
      ("begin_port", (ip.beginPort.toNat : Json)), ("end_port", (ip.endPort.toNat : Json)),
      ("protocol", .string ip.protocol)] :=
  .object fun ip => by
    simp [ofMessage?, Json.field?, Json.get?, Json.lookup, Json.Faithful.text.read_write,
      Json.Faithful.word.read_write]

end IpFilter

namespace GtpFilter

/-- Reads a match of tunnelled traffic from a message. -/
def ofMessage? (message : Json) : Option GtpFilter := do
  return {
    address := ← message.field? "address" Json.text?
    mask := ← message.field? "mask" Json.word?
    subscribers := ← message.field? "imsis" (Object.listOf? Json.text?) }

theorem message_faithful :
    Json.Faithful ofMessage? fun gtp => .object [
      ("address", .string gtp.address), ("mask", (gtp.mask.toNat : Json)),
      ("imsis", .strings gtp.subscribers)] :=
  .object fun gtp => by
    simp [ofMessage?, Json.field?, Json.get?, Json.lookup, Json.Faithful.text.read_write,
      Json.Faithful.word.read_write, Json.Faithful.texts.read_write]

end GtpFilter

namespace Selector

/-- Reads a selector from a message. -/
def ofMessage? (message : Json) : Option Selector := do
  return {
    description := ← message.field? "description" Json.text?
    macs := ← Object.optional message "macs" MacFilter.ofMessage?
    ip := ← Object.optional message "ip" IpFilter.ofMessage?
    gtp := ← Object.optional message "gtp" GtpFilter.ofMessage? }

theorem message_faithful : Json.Faithful ofMessage? Agent.selectorJson :=
  .object fun selector => by
    rw [ofMessage?, MacFilter.message_faithful.of_option rfl,
      IpFilter.message_faithful.of_option rfl, GtpFilter.message_faithful.of_option rfl]
    simp [Json.field?, Json.get?, Json.lookup, Json.Faithful.text.read_write]

end Selector

namespace IpRedirect

/-- Reads a new destination address and port from a message. -/
def ofMessage? (message : Json) : Option IpRedirect := do
  return {
    address := ← message.field? "address" Json.text?
    port := ← message.field? "port" Json.word? }

theorem message_faithful :
    Json.Faithful ofMessage? fun ip => .object [
      ("address", .string ip.address), ("port", (ip.port.toNat : Json))] :=
  .object fun ip => by
    simp [ofMessage?, Json.field?, Json.get?, Json.lookup, Json.Faithful.text.read_write,
      Json.Faithful.word.read_write]

end IpRedirect

namespace TrafficAction

/-- The action with a given number. -/
def ofNumber? : Nat → Option TrafficAction
  | 0 => some .accept
  | 1 => some .reject
  | 2 => some .drop
  | _ => none

theorem of_number (action : TrafficAction) : ofNumber? action.number = some action := by
  cases action <;> rfl

/-- Only the name of an action is read as the action. -/
theorem name_of_parse {text : String} {action : TrafficAction} (h : parse text = .ok action) :
    action.name = text := by
  unfold parse at h
  split at h <;> cases h <;> rfl

end TrafficAction

namespace RuleTarget

/-- Reads the outcome of a rule from a message, with the name of its action. -/
def ofMessage? (message : Json) : Option RuleTarget := do
  let action ← message.field? "action" fun number => number.nat?.bind TrafficAction.ofNumber?
  return {
    description := ← message.field? "description" Json.text?
    action := action.name
    mac := ← Object.optional message "mac" fun mac => mac.field? "mac_address" Json.text?
    ip := ← Object.optional message "ip" IpRedirect.ofMessage? }

theorem mac_message_faithful :
    Json.Faithful (fun mac => mac.field? "mac_address" Json.text?)
      fun mac => .object [("mac_address", .string mac)] :=
  .object fun _ => rfl

end RuleTarget

namespace TrafficRule

/-- Reads a rule from a message. -/
def ofMessage? (message : Json) : Option TrafficRule := do
  return {
    description := ← message.field? "description" Json.text?
    priority := ← message.field? "priority" Json.word?
    source := ← Object.optional message "source" Selector.ofMessage?
    destination := ← Object.optional message "destination" Selector.ofMessage?
    target := ← Object.optional message "target" RuleTarget.ofMessage? }

end TrafficRule

namespace Agent

/-! ### What is translated -/

/-- The outcome of a rule is translated only with the number of an action that its name stands
for. -/
theorem Target.of_target_eq {target : RuleTarget} {sent : Target}
    (h : ofTarget target = .ok sent) : ∃ action, TrafficAction.parse target.action = .ok action ∧
      sent = ⟨target.description, action.number, target.mac, target.ip⟩ := by
  obtain ⟨action, hparse, hsent⟩ := bind_ok h
  exact ⟨action, hparse, (Except.ok.inj hsent).symm⟩

/-- The outcome of a rule is read back from its message. -/
theorem Target.read_of_target {target : RuleTarget} {sent : Target}
    (h : ofTarget target = .ok sent) : RuleTarget.ofMessage? sent.toJson = some target := by
  obtain ⟨action, hparse, rfl⟩ := of_target_eq h
  rw [RuleTarget.ofMessage?, RuleTarget.mac_message_faithful.of_option rfl,
    IpRedirect.message_faithful.of_option rfl]
  simp [toJson, Json.field?, Json.get?, Json.lookup, Json.Faithful.text.read_write, Json.nat?,
    TrafficAction.of_number, TrafficAction.name_of_parse hparse]

/-- And so is the outcome that a rule need not have. -/
theorem Target.read_of_part {part : Option RuleTarget} {sent : Option Target}
    (h : part.mapM ofTarget = .ok sent) {message : Json} {name : String}
    (hname : message.get? name = some (.ofOption toJson sent)) :
    Object.optional message name RuleTarget.ofMessage? = some part := by
  cases part with
  | none =>
      obtain rfl := Except.ok.inj h
      exact Json.optional_null hname
  | some target =>
      rw [Option.mapM_some] at h
      obtain ⟨value, hvalue, h⟩ := bind_ok h
      obtain rfl := Except.ok.inj h
      rw [Json.optional_of_ne_null hname nofun]
      exact congrArg _ (read_of_target hvalue)

/-- A rule is read back from its message. -/
theorem Rule.read_of_rule {rule : TrafficRule} {sent : Rule} (h : ofRule rule = .ok sent) :
    TrafficRule.ofMessage? sent.toJson = some rule := by
  obtain ⟨target, htarget, hsent⟩ := bind_ok h
  obtain rfl := Except.ok.inj hsent
  rw [TrafficRule.ofMessage?, Selector.message_faithful.of_option rfl,
    Selector.message_faithful.of_option rfl, Target.read_of_part htarget rfl]
  simp [toJson, Json.field?, Json.get?, Json.lookup, Json.Faithful.text.read_write,
    Json.Faithful.word.read_write]

/-! ### What passes is translated -/

/-- The outcome of a rule that passes its check is translated. -/
theorem Target.of_target_ok {target : RuleTarget} (h : target.check = .ok ()) :
    ∃ message, ofTarget target = .ok message := by
  simp only [RuleTarget.check, Check.bind_passes] at h
  obtain ⟨-, haction, -⟩ := h
  cases hparse : TrafficAction.parse target.action with
  | error violation => simp [hparse, Except.map] at haction
  | ok action => exact ⟨_, by rw [ofTarget, hparse]; rfl⟩

/-- So is a rule that passes its check. -/
theorem Rule.of_rule_ok {rule : TrafficRule} (h : rule.check = .ok ()) :
    ∃ message, ofRule rule = .ok message := by
  simp only [TrafficRule.check, Check.bind_passes] at h
  obtain ⟨-, -, -, -, hpart⟩ := h
  cases htarget : rule.target with
  | none => simp [htarget, TrafficRule.checkPart] at hpart
  | some target =>
      rw [htarget] at hpart
      obtain ⟨message, hmessage⟩ := Target.of_target_ok (Check.inside_passes.1 hpart)
      exact ⟨_, by rw [ofRule, htarget, Option.mapM_some, hmessage]; rfl⟩

/-- And a policy that passes its check: no later step can fail. -/
theorem Policy.of_traffic_ok (id : String) {policy : TrafficPolicy} (h : policy.check = .ok ()) :
    ∃ message, ofTraffic id policy = .ok message := by
  have hrules : ∀ rule ∈ policy.rules, ∃ message, Rule.ofRule rule = .ok message := by
    have hparts := h
    simp only [TrafficPolicy.check, Check.bind_passes] at hparts
    exact Check.each_mem hparts.2.2 fun _ _ hrule => Rule.of_rule_ok (Check.inside_passes.1 hrule)
  obtain ⟨rules, htranslated⟩ := map_all_ok hrules
  exact ⟨_, by rw [ofTraffic, h, htranslated]; rfl⟩

/-- Only a policy that passes its check is translated, rule by rule, under the ID of what it is
for. -/
theorem Policy.of_traffic_eq {id : String} {policy : TrafficPolicy} {message : Policy}
    (h : ofTraffic id policy = .ok message) :
    policy.check = .ok () ∧ message.id = id ∧
      List.Forall₂ (fun rule sent => Rule.ofRule rule = .ok sent) policy.rules message.rules := by
  obtain ⟨passed, hcheck, h⟩ := bind_ok h
  obtain ⟨rules, hrules, hmessage⟩ := bind_ok h
  obtain rfl := Except.ok.inj hmessage
  exact ⟨map_error_ok.1 hcheck, rfl, map_all_iff.1 (map_error_ok.1 hrules)⟩

namespace Policy

/-- Whether each rule of a policy can be read from the rule at its place in a message. -/
def Tells (message : Policy) (policy : TrafficPolicy) : Prop :=
  List.Forall₂ (fun rule sent => TrafficRule.ofMessage? sent.toJson = some rule)
    policy.rules message.rules

variable {id : String} {policy : TrafficPolicy} {message : Policy}

/-- All rules of a policy can be read from its message. -/
theorem tells_of_traffic (h : ofTraffic id policy = .ok message) : message.Tells policy :=
  (of_traffic_eq h).2.2.imp fun _ _ => Rule.read_of_rule

/-- It is enough to know how the rules of the message are written. -/
theorem tells_iff : message.Tells policy ↔
    List.Forall₂ (fun rule sent => TrafficRule.ofMessage? sent = some rule) policy.rules
      (message.rules.map Rule.toJson) := by
  rw [List.forall₂_map_right_iff]
  rfl

/-- The written rules of a message tell of no other rules. -/
theorem Tells.rules_eq {other : TrafficPolicy} {sent : Policy} (h : message.Tells policy)
    (hother : sent.Tells other)
    (hrules : sent.rules.map Rule.toJson = message.rules.map Rule.toJson) :
    other.rules = policy.rules := by
  have hreader : Relator.LeftUnique fun rule sent => TrafficRule.ofMessage? sent = some rule :=
    fun _ _ _ hone hanother => Option.some.inj (hone.symm.trans hanother)
  exact List.left_unique_forall₂' hreader (hrules ▸ tells_iff.1 hother) (tells_iff.1 h)

/-- A message with a rule is not the one without rules. -/
theorem to_json_ne_clear (h : message.rules ≠ []) : (clear id).toJson ≠ message.toJson := by
  intro heq
  have hparts : id = message.id ∧ message.rules = [] := by
    simpa [toJson, clear, Json.ofList] using heq
  exact h hparts.2

end Policy

end Agent

/-- A policy that passes its check has a rule. -/
theorem TrafficPolicy.rules_ne_nil {policy : TrafficPolicy} (h : policy.check = .ok ()) :
    policy.rules ≠ [] := by
  simp only [TrafficPolicy.check, Check.bind_passes, Check.require_passes] at h
  rintro hempty
  simp [hempty] at h

open Agent in
/-- The message of a policy exists exactly if the policy passes its check. Then it has the ID of
what it is for and a rule for each rule, in the order of the rules, from which the rule can be read.
So no other policy has the same rules in its message, and as there is a rule, it is not the message
that takes the policy of an application or an interface away. -/
theorem policy_message_lossless (id : String) (policy : TrafficPolicy) :
    ((∃ message, Policy.ofTraffic? id (some policy) = .ok message) ↔ policy.check = .ok ()) ∧
      ∀ message, Policy.ofTraffic? id (some policy) = .ok message →
        message.id = id ∧ message.Tells policy ∧
        (∀ otherId other sent, Policy.ofTraffic? otherId (some other) = .ok sent →
          sent.rules.map Rule.toJson = message.rules.map Rule.toJson →
          other.rules = policy.rules) ∧
        message.rules ≠ [] ∧
        ∀ otherId cleared, Policy.ofTraffic? otherId none = .ok cleared →
          cleared.toJson ≠ message.toJson := by
  refine ⟨⟨fun ⟨message, h⟩ => (Policy.of_traffic_eq h).1, Policy.of_traffic_ok id⟩, ?_⟩
  intro message h
  obtain ⟨hcheck, hid, hrules⟩ := Policy.of_traffic_eq h
  have hsome : message.rules ≠ [] := fun hempty => by
    rw [hempty, List.forall₂_nil_right_iff] at hrules
    exact TrafficPolicy.rules_ne_nil hcheck hrules
  refine ⟨hid, Policy.tells_of_traffic h, ?_, hsome, ?_⟩
  · intro otherId other sent hother hsame
    exact (Policy.tells_of_traffic h).rules_eq (Policy.tells_of_traffic hother) hsame
  · intro otherId cleared hcleared
    obtain rfl := Except.ok.inj hcleared
    exact Policy.to_json_ne_clear hsome

namespace Agent.Sample

/-- Tunnelled traffic of a subscriber is steered to a cache, and all else from two cards is
dropped. -/
def steering : TrafficPolicy :=
  let subscriber : Selector := ⟨"subscriber", none, some ⟨"10.16.0.0", 16, 1000, 2000, "tcp"⟩,
    some ⟨"192.168.10.1", 32, ["310150123456789"]⟩⟩
  let cards : Selector := ⟨"cards", some ⟨["00:1b:44:11:3a:b7", "00:1b:44:11:3a:b8"]⟩, none, none⟩
  ⟨"7c9e6679-7425-40de-944b-e07fc1f90ae7", [
    ⟨"to the cache", 1, some subscriber, some cards,
      some ⟨"cache", "accept", none, some ⟨"10.0.0.9", 8080⟩⟩⟩,
    ⟨"all else", 2, some cards, some subscriber,
      some ⟨"none", "drop", some "aa:bb:cc:dd:ee:ff", none⟩⟩]⟩

end Agent.Sample

open Agent in
/-- The policy that steers traffic to a cache has a message, which is not the one that clears. -/
theorem policy_message_steering :
    ∃ message, Policy.ofTraffic? "app-1" (some Sample.steering) = .ok message ∧
      message.id = "app-1" ∧ message.Tells Sample.steering ∧ message.rules.length = 2 ∧
      (Policy.clear "app-1").toJson ≠ message.toJson := by
  obtain ⟨hexists, hall⟩ := policy_message_lossless "app-1" Sample.steering
  have hcheck : Sample.steering.check = .ok () := by decide +kernel
  obtain ⟨message, hmessage⟩ := hexists.2 hcheck
  obtain ⟨hid, htells, -, -, hclear⟩ := hall message hmessage
  exact ⟨message, hmessage, hid, htells, htells.length_eq.symm, hclear "app-1" _ rfl⟩

end EdgeFleet
