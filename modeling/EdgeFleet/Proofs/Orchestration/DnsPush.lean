import EdgeFleet.Proofs.Broker.Route
import EdgeFleet.Proofs.Orchestration.Backends
import EdgeFleet.Proofs.Orchestration.Straight

/-!
# Pushing a DNS configuration

What a node is sent when a DNS configuration is applied to it or removed from it.
`DnsConfig.messages` is the sequence for applying one, and removing it takes back message for
message what was set. `dns_push` is the main result: what is found out before anything is called,
and that a push follows its sequence up to the first call that fails or hangs.
-/

namespace EdgeFleet

/-! ### What is pushed -/

/-- What a node is sent to apply a configuration: a record for each alias, named after the
application and with its ID as the only value, then the records of the configuration, and the
addresses of the forwarders if there are any. -/
def DnsConfig.messages (config : DnsConfig) (aliases : List DnsAlias) : List Agent.Request :=
  aliases.map (fun entry => .setRecord entry.appId [entry.appId]) ++
    config.records.map (fun record => .setRecord record.name record.ips) ++
      if config.forwarders = [] then [] else [.setForwarders (config.forwarders.map (·.ip))]

/-- Whether an alias may be pushed with a configuration. -/
def DnsConfig.Admits (config : DnsConfig) (entry : DnsAlias) : Prop :=
  entry.check = .ok () ∧ entry.configId = config.id

/-- The request that takes back what another one sets. -/
def Agent.Request.undoing : Agent.Request → Agent.Request
  | .setRecord name values => .deleteRecord name values
  | .setForwarders addresses => .deleteForwarders addresses
  | other => other

namespace DnsChange

variable (change : DnsChange) (nodeId : String) (config : DnsConfig) (aliases : List DnsAlias)

/-- What a node is sent for a change. -/
def messages : List Agent.Request :=
  match change with
  | .apply => config.messages aliases
  | .remove => (config.messages aliases).map Agent.Request.undoing

/-- The call in which a message of a change is sent, with the name that it has if it fails. -/
def call (message : Agent.Request) : Call :=
  let part :=
    match message with
    | .setRecord name _ | .deleteRecord name _ => s!"A record {name}"
    | _ => "forwarders"
  .agent nodeId s!"{change.verb} DNS {part} on node {nodeId}" message

/-- The calls in which a change is pushed over a connection. -/
def calls : List Call :=
  (change.messages config aliases).map (change.call nodeId)

/-- Whether a change may be pushed. What is applied must pass its check; what is removed need not,
but its aliases must. -/
structure Passes : Prop where
  config_ok : change = .apply → config.check = .ok ()
  aliases_ok : ∀ entry ∈ aliases, config.Admits entry

/-- The messages of a change are its requests for the records of the aliases and of the
configuration, and its request for the forwarders. -/
theorem messages_eq :
    change.messages config aliases =
      (aliases.map DnsAlias.record ++ config.records).map change.recordRequest ++
        if config.forwarders = [] then [] else [change.forwardersRequest config.forwarderIps] := by
  rw [List.map_append]
  cases change <;> cases hforwarders : config.forwarders <;>
    simp [messages, DnsConfig.messages, DnsConfig.forwarderIps, hforwarders] <;> rfl

/-- Records are sent in order. -/
theorem send_records_straight (records : List DnsRecord) :
    Program.Straight () ((records.map change.recordRequest).map (change.call nodeId))
      (change.sendRecords nodeId records) := by
  induction records with
  | nil => exact .done
  | cons record rest ih =>
      cases change with
      | apply => exact .make fun _ => ih
      | remove => exact .make fun _ => ih

/-- Forwarders are sent at once, if there are any. -/
theorem send_forwarders_straight :
    Program.Straight ()
      ((if config.forwarders = [] then []
        else [change.forwardersRequest config.forwarderIps]).map (change.call nodeId))
      (change.sendForwarders nodeId config) := by
  unfold sendForwarders
  cases config.forwarders with
  | nil => exact .done
  | cons first rest =>
      cases change with
      | apply => exact .make fun _ => .done
      | remove => exact .make fun _ => .done

/-- Over a connection a change makes its calls. -/
theorem push_straight :
    Program.Straight () (change.calls nodeId config aliases) (do
      change.sendRecords nodeId (aliases.map DnsAlias.record ++ config.records)
      change.sendForwarders nodeId config) := by
  rw [calls, messages_eq, List.map_append]
  exact (change.send_records_straight nodeId _).bind (change.send_forwarders_straight nodeId config)

end DnsChange

/-! ### The operation -/

namespace Controller

variable {config : DnsConfig} {aliases : List DnsAlias} {change : DnsChange}

/-- An alias that may not be pushed is refused as invalid. -/
theorem check_alias_cases (config : DnsConfig) (entry : DnsAlias) :
    (config.Admits entry ∧ checkAlias config entry = .ok ()) ∨
      ¬ config.Admits entry ∧ ∃ reason, checkAlias config entry = .error (.validation reason) := by
  rw [checkAlias, DnsConfig.Admits]
  cases entry.check with
  | error violation => exact .inr ⟨nofun, _, rfl⟩
  | ok passed =>
      by_cases hid : entry.configId = config.id
      · exact .inl ⟨⟨rfl, hid⟩, by simp [hid, bind, Except.bind]; rfl⟩
      · exact .inr ⟨fun hadmits => hid hadmits.2, _, by simp [hid, bind, Except.bind]; rfl⟩

/-- One alias that may not be pushed, wherever it stands, is enough to refuse all. -/
theorem check_aliases_cases (config : DnsConfig) (aliases : List DnsAlias) :
    ((∀ entry ∈ aliases, config.Admits entry) ∧ aliases.forM (checkAlias config) = .ok ()) ∨
      (¬ ∀ entry ∈ aliases, config.Admits entry) ∧
        ∃ reason, aliases.forM (checkAlias config) = .error (.validation reason) := by
  induction aliases with
  | nil => exact .inl ⟨nofun, rfl⟩
  | cons entry rest ih =>
      have hfirst : (entry :: rest).forM (checkAlias config) =
          (checkAlias config entry >>= fun _ => rest.forM (checkAlias config)) := rfl
      rw [List.forall_mem_cons, hfirst]
      -- The first alias is refused, or the others decide.
      rcases check_alias_cases config entry with ⟨hadmits, hcheck⟩ | ⟨hadmits, reason, hcheck⟩
      · rw [hcheck]
        rcases ih with ⟨hrest, hall⟩ | ⟨hrest, reason, hall⟩
        · exact .inl ⟨⟨hadmits, hrest⟩, hall⟩
        · exact .inr ⟨fun h => hrest h.2, reason, hall⟩
      · rw [hcheck]
        exact .inr ⟨fun h => hadmits h.1, reason, rfl⟩

/-- If all aliases may be pushed, their records are pushed and then those of the configuration. -/
theorem pushed_records_ok (h : ∀ entry ∈ aliases, config.Admits entry) :
    pushedRecords config aliases = .ok (aliases.map DnsAlias.record ++ config.records) := by
  obtain ⟨-, hall⟩ := (check_aliases_cases config aliases).resolve_right fun hnot => hnot.1 h
  rw [pushedRecords, hall]
  rfl

/-- If not, there is nothing to push. -/
theorem pushed_records_error (h : ¬ ∀ entry ∈ aliases, config.Admits entry) :
    ∃ reason, pushedRecords config aliases = .error (.validation reason) := by
  obtain ⟨-, reason, hall⟩ := (check_aliases_cases config aliases).resolve_left fun hall => h hall.1
  rw [pushedRecords, hall]
  exact ⟨reason, rfl⟩

/-- A change that may not be pushed is invalid, and nothing is called. -/
theorem change_dns_refused (controller : Controller) (nodeId : String)
    (h : ¬ change.Passes config aliases) :
    ∃ reason, (controller.changeDns change nodeId config aliases).program =
      .done (.error (.validation reason)) := by
  have hrecords (hconfig : change = .apply → config.check = .ok ()) :
      ∃ reason, pushedRecords config aliases = .error (.validation reason) :=
    pushed_records_error fun haliases => h ⟨hconfig, haliases⟩
  cases change with
  | remove =>
      obtain ⟨reason, hrecords⟩ := hrecords nofun
      exact ⟨reason, by simp [changeDns, hrecords]⟩
  | apply =>
      cases hconfig : config.check with
      | error violation => exact ⟨.violation violation, by simp [changeDns, hconfig]⟩
      | ok passed =>
          have hpassed : config.check = .ok () := hconfig
          obtain ⟨reason, hrecords⟩ := hrecords fun _ => hpassed
          exact ⟨reason, by simp [changeDns, hpassed, hrecords]⟩

/-- A change that may be pushed connects to the node and makes its calls. -/
theorem change_dns_passed (controller : Controller) (nodeId : String)
    (h : change.Passes config aliases) :
    (controller.changeDns change nodeId config aliases).program = (do
      controller.broker.connect nodeId .ela
      change.sendRecords nodeId (aliases.map DnsAlias.record ++ config.records)
      change.sendForwarders nodeId config) := by
  have hrecords := pushed_records_ok h.aliases_ok
  cases change with
  | apply => simp [changeDns, h.config_ok rfl, hrecords]
  | remove => simp [changeDns, hrecords]

end Controller

/-- A configuration that does not pass its checks is not pushed, and neither is one with an alias
that does not pass or belongs to another configuration, wherever this alias stands: nothing is
called. Otherwise the node is connected to once, if there is a route to it, and is sent the messages
of the change in order: those of applying the configuration, or message for message those that take
them back. The push ends well exactly if all of them were sent and answered; if not, the last call
made is the one that failed or hung. To connect is the first call, so that nothing is sent if that
fails. -/
theorem dns_push {σ : Type} (world : World σ) (state : σ) (controller : Controller)
    (change : DnsChange) (nodeId : String) (config : DnsConfig) (aliases : List DnsAlias) :
    let operation := controller.changeDns change nodeId config aliases
    let made := operation.program.exchanges world change.operation state
    let result := (operation.run world state).1
    (¬ change.Passes config aliases → made = [] ∧ ∃ reason, result = .error (.validation reason)) ∧
      (change.Passes config aliases →
        (∀ error, controller.broker.route nodeId .ela = .error error →
          made = [] ∧ result = .error error) ∧
        ∀ route, controller.broker.route nodeId .ela = .ok route →
          Follows change.operation (.dial nodeId route :: change.calls nodeId config aliases) made
            result) := by
  intro operation made result
  refine ⟨fun hrefused => ?_, fun hpasses => ⟨fun error hroute => ?_, fun route hroute => ?_⟩⟩
  · obtain ⟨reason, hprogram⟩ := controller.change_dns_refused nodeId hrefused
    simp only [made, result, operation, Operation.run, hprogram]
    exact ⟨rfl, reason, rfl⟩
  · have hprogram := controller.change_dns_passed nodeId hpasses
    rw [Broker.connect_unrouted hroute] at hprogram
    simp only [made, result, operation, Operation.run, hprogram]
    exact ⟨rfl, rfl⟩
  · have hprogram := controller.change_dns_passed nodeId hpasses
    rw [Broker.connect_routed hroute] at hprogram
    have hstraight : Program.Straight () (.dial nodeId route :: change.calls nodeId config aliases)
        operation.program := by
      rw [hprogram, Program.proceed_bind]
      exact .proceed fun _ => change.push_straight nodeId config aliases
    exact hstraight.follows world change.operation state

namespace Sample

/-- A DNS configuration with a record and a forwarder. -/
def zone : DnsConfig where
  id := "d4c3b2a1-0f9e-4d8c-8b7a-6f5e4d3c2b1a"
  name := "office"
  records := [⟨"cache.edge", "the cache", ["192.0.2.80", "192.0.2.81"]⟩]
  forwarders := [⟨"upstream", "resolver", "192.0.2.53"⟩]

/-- The application, published under the configuration. -/
def published : DnsAlias :=
  ⟨"0e8f6c1a-2b3d-4e5f-9a8b-7c6d5e4f3a2b", zone.id, "web", "the frontend", app.id⟩

/-- A node that takes one request and refuses the next. -/
def refusing : Script :=
  { script bare [] with nodeReplies := [.empty, .refuse ⟨.internal, "disk full"⟩] }

end Sample

open Sample in
/-- A node that refuses the record of the configuration has been sent the one of the alias before,
and is sent no forwarders after. -/
theorem dns_push_record_refused :
    let push := nodeController.changeDns .apply node.id zone [published]
    let made := push.program.exchanges Script.world "apply dns config" refusing
    ∃ route, made.map Exchange.call = [.dial node.id route,
        DnsChange.apply.call node.id (.setRecord app.id [app.id]),
        DnsChange.apply.call node.id (.setRecord "cache.edge" ["192.0.2.80", "192.0.2.81"])] ∧
      (push.run Script.world refusing).1.isOk = false := by
  intro push made
  have hpasses : DnsChange.apply.Passes zone [published] :=
    ⟨fun _ => Check.eq_ok (by decide +kernel),
      List.forall_mem_singleton.2 ⟨Check.eq_ok (by decide +kernel), rfl⟩⟩
  have hreached : (nodeBroker.route node.id .ela).isOk := by decide +kernel
  obtain ⟨-, hpush⟩ := dns_push Script.world refusing nodeController .apply node.id zone [published]
  cases hroute : nodeBroker.route node.id .ela with
  | error error => rw [hroute] at hreached; cases hreached
  | ok route =>
      have hprefix : made.map Exchange.call <+:
          .dial node.id route :: DnsChange.apply.calls node.id zone [published] :=
        ((hpush hpasses).2 route hroute).in_order
      have hlength : (made.map Exchange.call).length = 3 := by decide +kernel
      have hmade := List.prefix_iff_eq_take.1 hprefix
      rw [hlength] at hmade
      exact ⟨route, hmade, by decide +kernel⟩

end EdgeFleet
