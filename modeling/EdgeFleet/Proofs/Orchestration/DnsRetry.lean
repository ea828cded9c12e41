import EdgeFleet.Proofs.Agent.Names
import EdgeFleet.Proofs.Orchestration.DnsPush
import Mathlib.Logic.Function.Iterate

/-!
# Pushing a DNS configuration again

What attempts to push a configuration leave on a node that keeps names. The requests of a push
either leave the same when a request is served before another one of the push, or can change places
with it, so that serving a request of the push beforehand makes no difference
(`DnsChange.serve_all_absorbs`). An attempt that stops somewhere has had some of the requests served
(`Controller.change_dns_serves`), and `dns_push_again` is the main result: after any attempts a push
that ends well leaves what it leaves without them.
-/

namespace EdgeFleet

namespace DnsChange

open Agent (Names Request)

variable {change : DnsChange} {first second : Request} {requests : List Request}

/-- What a change leaves under the name of a record. -/
def left : DnsChange → DnsRecord → Option (List String)
  | .apply, record => some record.ips
  | .remove, _ => none

/-- The forwarders that a change leaves of those before. -/
def forwardersLeft : DnsChange → List String → List String → List String
  | .apply, addresses, _ => addresses
  | .remove, addresses, before => before.filter fun address => !addresses.contains address

/-- The request for a record replaces what the node has under its name. -/
theorem serve_record (change : DnsChange) (record : DnsRecord) (names : Names) :
    names.serve (change.recordRequest record) =
      { names with records := Function.update names.records record.name (change.left record) } := by
  cases change <;> rfl

/-- The request for the forwarders changes these alone. -/
theorem serve_forwarders (change : DnsChange) (addresses : List String) (names : Names) :
    names.serve (change.forwardersRequest addresses) =
      { names with forwarders := change.forwardersLeft addresses names.forwarders } := by
  cases change <;> rfl

/-- Forwarders that were set or removed need not be so again. -/
theorem forwarders_left_again (change : DnsChange) (addresses before : List String) :
    change.forwardersLeft addresses (change.forwardersLeft addresses before) =
      change.forwardersLeft addresses before := by
  cases change with
  | apply => rfl
  | remove => simp [forwardersLeft, List.filter_filter]

/-- Forwarders are set for good by the last request, and removed in any order. -/
theorem forwarders_left_after (change : DnsChange) (addresses others before : List String) :
    change.forwardersLeft others (change.forwardersLeft addresses before) =
        change.forwardersLeft others before ∨
      change.forwardersLeft others (change.forwardersLeft addresses before) =
        change.forwardersLeft addresses (change.forwardersLeft others before) := by
  cases change with
  | apply => exact .inl rfl
  | remove => exact .inr (by simp [forwardersLeft, List.filter_filter, Bool.and_comm])

/-- The requests that a change may consist of. -/
inductive Makes (change : DnsChange) : Request → Prop
  | record (record : DnsRecord) : Makes change (change.recordRequest record)
  | forwarders (addresses : List String) : Makes change (change.forwardersRequest addresses)

/-- The messages of a change are such requests. -/
theorem makes_messages (change : DnsChange) (config : DnsConfig) (aliases : List DnsAlias) :
    ∀ request ∈ change.messages config aliases, change.Makes request := by
  intro request hrequest
  rw [messages_eq, List.mem_append, List.mem_map] at hrequest
  rcases hrequest with ⟨record, -, rfl⟩ | hforwarders
  · exact .record record
  · split at hforwarders
    · cases hforwarders
    · obtain rfl := List.mem_singleton.1 hforwarders
      exact .forwarders _

/-- A request that was served need not be served again. -/
theorem serve_again (h : change.Makes first) (names : Names) :
    (names.serve first).serve first = names.serve first := by
  cases h with
  | record record => simp only [serve_record, Function.update_idem]
  | forwarders addresses => simp only [serve_forwarders, forwarders_left_again]

/-- A request after another one of the same change makes up for it, or the two can change places. -/
theorem serve_after (hfirst : change.Makes first) (hsecond : change.Makes second)
    (names : Names) :
    (names.serve first).serve second = names.serve second ∨
      (names.serve first).serve second = (names.serve second).serve first := by
  cases hfirst with
  | record record =>
      cases hsecond with
      | record other =>
          simp only [serve_record]
          by_cases hname : record.name = other.name
          · exact .inl (by rw [hname, Function.update_idem])
          · exact .inr (by rw [Function.update_comm hname])
      | forwarders addresses => exact .inr (by simp only [serve_record, serve_forwarders])
  | forwarders addresses =>
      cases hsecond with
      | record record => exact .inr (by simp only [serve_record, serve_forwarders])
      | forwarders others =>
          simp only [serve_forwarders]
          exact (change.forwarders_left_after addresses others names.forwarders).imp
            (congrArg _) (congrArg _)

/-- Serving one of the requests beforehand makes no difference. -/
theorem serve_all_absorbs (hrequests : ∀ request ∈ requests, change.Makes request)
    (h : first ∈ requests) (names : Names) :
    (names.serve first).serveAll requests = names.serveAll requests := by
  induction requests generalizing names with
  | nil => cases h
  | cons next rest ih =>
      obtain ⟨hnext, hrest⟩ := List.forall_mem_cons.1 hrequests
      have hfirst : change.Makes first := hrequests first h
      rw [Names.serve_all_cons, Names.serve_all_cons]
      by_cases heq : first = next
      · rw [heq, serve_again hnext]
      · have hmem : first ∈ rest := (List.mem_cons.1 h).resolve_left heq
        rcases serve_after hfirst hnext names with hmade | hswapped
        · rw [hmade]
        · rw [hswapped, ih hrest hmem]

/-- Neither does serving several of them, in whatever order. -/
theorem serve_all_absorbs_all {served : List Request}
    (hrequests : ∀ request ∈ requests, change.Makes request)
    (hserved : ∀ request ∈ served, request ∈ requests) (names : Names) :
    (names.serveAll served).serveAll requests = names.serveAll requests := by
  induction served generalizing names with
  | nil => rfl
  | cons first rest ih =>
      obtain ⟨hfirst, hrest⟩ := List.forall_mem_cons.1 hserved
      calc ((names.serve first).serveAll rest).serveAll requests
          = (names.serve first).serveAll requests := ih hrest (names.serve first)
        _ = names.serveAll requests := serve_all_absorbs hrequests hfirst names

end DnsChange

/-- A prefix of calls that begin with a connection and go on with requests leaves a node as some of
the first requests do. -/
theorem Agent.Names.foldl_after_prefix {nodeId : String} {route : Route}
    {context : Agent.Request → String} {requests : List Agent.Request} {served : List Call}
    (h : served <+: .dial nodeId route ::
      requests.map fun request => .agent nodeId (context request) request)
    (names : Agent.Names) :
    ∃ first, first <+: requests ∧ served.foldl (Agent.Names.after nodeId) names =
      names.serveAll first := by
  cases served with
  | nil => exact ⟨[], List.nil_prefix, rfl⟩
  | cons call rest =>
      obtain ⟨rfl, hrest⟩ := List.cons_prefix_cons.1 h
      rw [List.prefix_iff_eq_take.1 hrest, ← List.map_take]
      exact ⟨_, List.take_prefix _ _, Agent.Names.foldl_after_requests nodeId context _ names⟩

section Retry

variable {σ : Type} {world : World σ} {nodeId : String} {names : σ → Agent.Names}
  (hkeeps : world.KeepsNames nodeId names) (controller : Controller) (change : DnsChange)
  (config : DnsConfig) (aliases : List DnsAlias)
include hkeeps

/-- What an attempt to push a configuration leaves on the node: the first messages were served, and
all of them if the attempt ends well. -/
theorem Controller.change_dns_serves (state : σ) :
    let ended := (controller.changeDns change nodeId config aliases).run world state
    ∃ served, served <+: change.messages config aliases ∧
      names ended.2 = (names state).serveAll served ∧
        (ended.1 = .ok () → served = change.messages config aliases) := by
  by_cases hpasses : change.Passes config aliases
  case neg =>
    obtain ⟨reason, hprogram⟩ := controller.change_dns_refused nodeId hpasses
    simp only [Operation.run, hprogram]
    exact ⟨[], List.nil_prefix, rfl, fun hok => by cases hok⟩
  have hprogram := controller.change_dns_passed nodeId hpasses
  cases hroute : controller.broker.route nodeId .ela with
  | error error =>
      rw [Broker.connect_unrouted hroute] at hprogram
      simp only [Operation.run, hprogram]
      exact ⟨[], List.nil_prefix, rfl, fun hok => by cases hok⟩
  | ok route =>
      rw [Broker.connect_routed hroute] at hprogram
      have hstraight : Program.Straight ()
          (.dial nodeId route :: change.calls nodeId config aliases)
          (controller.changeDns change nodeId config aliases).program := by
        rw [hprogram, Program.proceed_bind]
        exact .proceed fun _ => change.push_straight nodeId config aliases
      have hfollows := hstraight.follows world change.operation state
      obtain ⟨served, hstart, hnames, hall⟩ := hkeeps.run change.operation
        (controller.change_dns_stops change nodeId config aliases) state
      rw [Operation.run]
      by_cases hended : ∃ value, ((controller.changeDns change nodeId config aliases).program.run
          world change.operation state).1 = .ok value
      · obtain ⟨hcalls, hanswered⟩ := hfollows.complete_iff.1 hended
        rw [(hall hanswered).trans hcalls] at hnames
        exact ⟨_, List.prefix_rfl,
          hnames.trans (Agent.Names.foldl_after_requests nodeId _ _ (names state)), fun _ => rfl⟩
      · obtain ⟨first, hfirst, hfold⟩ :=
          Agent.Names.foldl_after_prefix (hstart.trans hfollows.in_order) (names state)
        exact ⟨first, hfirst, hnames.trans hfold, fun hok => absurd ⟨(), hok⟩ hended⟩

/-- After any attempts to push a configuration, serving all its messages leads where it leads from
the start. -/
theorem Controller.attempts_made_up (attempts : Nat) (start : σ) :
    let push := controller.changeDns change nodeId config aliases
    let messages := change.messages config aliases
    (names ((fun state => (push.run world state).2)^[attempts] start)).serveAll messages =
      (names start).serveAll messages := by
  intro push messages
  induction attempts with
  | zero => rfl
  | succ attempts ih =>
      rw [Function.iterate_succ_apply']
      obtain ⟨served, hstart, hnames, -⟩ := controller.change_dns_serves hkeeps change config
        aliases ((fun state => (push.run world state).2)^[attempts] start)
      rw [hnames, DnsChange.serve_all_absorbs_all (change.makes_messages config aliases)
        (fun _ hrequest => hstart.subset hrequest), ih]

end Retry

/-- A DNS configuration can be applied, or removed, again after attempts that failed. On a node that
keeps names, and that may or may not have served a call that failed or hung, any number of attempts
may have stopped at any point. When the same is tried once more and ends well, the node has the
names that it has when it ends well at once, whatever names the node had at first. -/
theorem dns_push_again {σ : Type} {world : World σ} {nodeId : String} {names : σ → Agent.Names}
    (hkeeps : world.KeepsNames nodeId names) (controller : Controller) (change : DnsChange)
    (config : DnsConfig) (aliases : List DnsAlias) {start fresh : σ}
    (hfresh : names fresh = names start) (attempts : Nat) :
    let push := (controller.changeDns change nodeId config aliases).run world
    let tried := (fun state => (push state).2)^[attempts] start
    (push tried).1 = .ok () → (push fresh).1 = .ok () →
      names (push tried).2 = names (push fresh).2 := by
  intro push tried hagain honce
  obtain ⟨served, -, htried, hall⟩ :=
    controller.change_dns_serves hkeeps change config aliases tried
  obtain ⟨servedOnce, -, hnames, hallOnce⟩ :=
    controller.change_dns_serves hkeeps change config aliases fresh
  calc names (push tried).2
      = (names tried).serveAll (change.messages config aliases) := by rw [htried, hall hagain]
    _ = (names start).serveAll (change.messages config aliases) :=
        controller.attempts_made_up hkeeps change config aliases attempts start
    _ = names (push fresh).2 := by rw [hnames, hallOnce honce, hfresh]

namespace Sample

/-- A node that resolves a name by another node's address. -/
def resolving : Agent.Names where
  records name := if name = "cache.edge" then some ["192.0.2.8"] else none
  forwarders := ["192.0.2.1"]

/-- Two attempts: the node stores the record of the configuration without an answer, and is then not
reached. -/
def twoFaults : List Fate :=
  [.answered, .answered, .failed ⟨.internal, "disk full"⟩ true, .hung false]

end Sample

open Sample in
/-- The third attempt after two that failed leaves what one attempt leaves: the record of the alias,
that of the configuration, and its forwarder. -/
theorem dns_push_again_third :
    let push := (nodeController.changeDns .apply node.id zone [published]).run
      (Agent.Names.world node.id)
    let first := push (resolving, twoFaults)
    let second := push first.2
    first.1.isOk = false ∧ second.1.isOk = false ∧ (push second.2).1 = .ok () ∧
      (push second.2).2.1 = (push (resolving, [])).2.1 ∧
        (push (resolving, [])).2.1.forwarders = ["192.0.2.53"] := by
  intro push first second
  have hagain : (push second.2).1 = .ok () := by decide +kernel
  have honce : (push (resolving, [])).1 = .ok () := by decide +kernel
  have hfresh : Prod.fst (resolving, ([] : List Fate)) = Prod.fst (resolving, twoFaults) := rfl
  exact ⟨by decide +kernel, by decide +kernel, hagain,
    dns_push_again (Agent.Names.world_keeps_names node.id) nodeController .apply zone [published]
      hfresh 2 hagain honce, by decide +kernel⟩

end EdgeFleet
