import EdgeFleet.Orchestration.Script
import EdgeFleet.Proofs.Orchestration.FailStop
import Mathlib.Logic.Function.Basic

/-!
# A node that keeps names

What a node does with requests about names, for theorems about a controller and a node together.
`Agent.Names` holds the values of each name and one list of forwarders. Setting replaces what is
there, and deleting takes it away. `World.KeepsNames` says that a world has such a node: it serves
every request that is answered, and may or may not have served one that fails or hangs. The main
statement is `World.KeepsNames.run`: a run leaves a node that has served the calls of the run in
order, all of them if all were answered. `Agent.Names.world` is such a world for calls that end in
any way that is given.
-/

namespace EdgeFleet

namespace Agent

/-- The names that a node resolves, with the values of each, and the addresses of the resolvers
that it asks for all others. -/
structure Names where
  records : String → Option (List String)
  forwarders : List String

namespace Names

/-- The names after a request. Requests that are not about names change none. -/
def serve (names : Names) : Request → Names
  | .setRecord name values =>
    { names with records := Function.update names.records name (some values) }
  | .deleteRecord name _ => { names with records := Function.update names.records name none }
  | .setForwarders addresses => { names with forwarders := addresses }
  | .deleteForwarders addresses =>
    { names with forwarders := names.forwarders.filter fun address => !addresses.contains address }
  | _ => names

/-- The names after requests that follow one another. -/
def serveAll (names : Names) (requests : List Request) : Names :=
  requests.foldl serve names

theorem serve_all_cons (names : Names) (first : Request) (rest : List Request) :
    names.serveAll (first :: rest) = (names.serve first).serveAll rest := rfl

theorem serve_all_append (names : Names) (first rest : List Request) :
    names.serveAll (first ++ rest) = (names.serveAll first).serveAll rest :=
  List.foldl_append

/-- The names of a node after a call. Only requests to this node change them. -/
def after (nodeId : String) (names : Names) : Call → Names
  | .agent receiver _ request => if receiver = nodeId then names.serve request else names
  | _ => names

/-- After calls that send requests to the node, the names are those after the requests. -/
theorem foldl_after_requests (nodeId : String) (context : Request → String)
    (requests : List Request) (names : Names) :
    (requests.map fun request => Call.agent nodeId (context request) request).foldl (after nodeId)
      names = names.serveAll requests := by
  rw [List.foldl_map, serveAll]
  simp only [after, if_true]

end Names

end Agent

/-- Whether a world has a node that keeps names, which are given in terms of the state. The node has
served every request that was answered. If a call fails or hangs, it may have been served or not. -/
structure World.KeepsNames {σ : Type} (world : World σ) (nodeId : String)
    (names : σ → Agent.Names) : Prop where
  answered : ∀ {state after : σ} {call : Call} {answer : call.Answer},
    world.answer state call = (.answered answer, after) →
      names after = (names state).after nodeId call
  unanswered : ∀ (state : σ) (call : Call),
    names (world.answer state call).2 = names state ∨
      names (world.answer state call).2 = (names state).after nodeId call

namespace World.KeepsNames

variable {σ α : Type} {world : World σ} {nodeId : String} {names : σ → Agent.Names}

/-- A call that fails or hangs is served or not. -/
theorem last_served {exchange : Exchange} {operation : String} {before after : Agent.Names}
    (h : after = before ∨ after = before.after nodeId exchange.call)
    (herror : exchange.error? operation ≠ none) :
    ∃ served, served <+: [exchange].map Exchange.call ∧
      after = served.foldl (Agent.Names.after nodeId) before ∧
        ((∀ other ∈ [exchange], other.error? operation = none) →
          served = [exchange].map Exchange.call) := by
  rcases h with hkept | hserved
  · exact ⟨[], List.nil_prefix, hkept, fun hnone => absurd (hnone exchange (by simp)) herror⟩
  · exact ⟨[exchange.call], List.prefix_rfl, hserved, fun _ => rfl⟩

/-- A run of a program that stops leaves the names that are there after the calls of the run were
served in order. Only the last call may not have been, and if all calls were answered, all of them
were. -/
theorem run (h : world.KeepsNames nodeId names) (operation : String) {program : Program α}
    (hstops : program.Stops) (state : σ) :
    let made := program.exchanges world operation state
    ∃ served, served <+: made.map Exchange.call ∧
      names (program.run world operation state).2 =
          served.foldl (Agent.Names.after nodeId) (names state) ∧
        ((∀ exchange ∈ made, exchange.error? operation = none) →
          served = made.map Exchange.call) := by
  induction program generalizing state with
  | done result => exact ⟨[], List.nil_prefix, rfl, fun _ => rfl⟩
  | call made next ih =>
      have hcall := h.unanswered state made
      simp only [Program.exchanges_call, Program.run]
      cases hanswer : world.answer state made with
      | mk outcome after =>
          rw [hanswer] at hcall
          cases outcome with
          | answered answer =>
              obtain ⟨served, hfirst, hnames, hall⟩ := ih _ (hstops.2 answer) after
              refine ⟨made :: served, List.cons_prefix_cons.2 ⟨rfl, hfirst⟩, ?_, ?_⟩
              · rw [hnames, h.answered hanswer, List.foldl_cons]
              · intro hnone
                rw [hall (List.forall_mem_cons.1 hnone).2, List.map_cons]
          | failed failure =>
              obtain ⟨error, -, hends⟩ := hstops.1 failure
              simp only [hends, Program.exchanges_done, Program.run_done]
              exact last_served hcall (by simp [Exchange.error?])
          | hung => exact last_served hcall (by simp [Exchange.error?])

end World.KeepsNames

/-! ### Calls that end as given -/

/-- How a call is to end. A call that fails or hangs may be served all the same. -/
inductive Fate where
  | answered
  | failed (status : RpcStatus) (served : Bool)
  | hung (served : Bool)

namespace Fate

/-- Whether the node serves a call. -/
def served : Fate → Bool
  | .answered => true
  | .failed _ served | .hung served => served

/-- How a call ends that is to end so. A host is always made known, and there is no cluster. -/
def outcome (fate : Fate) : (call : Call) → Outcome call
  | .register _ => .answered ()
  | .dial _ _ =>
    match fate with
    | .answered => .answered ()
    | .failed _ _ => .failed ()
    | .hung _ => .hung
  | .agent _ _ request =>
    match fate with
    | .answered => .answered (NodeReply.empty.answer request)
    | .failed status _ => .failed status
    | .hung _ => .hung
  | .cluster _ => .failed (.cluster "no cluster" .service)

end Fate

namespace Agent.Names

/-- The world of a node that keeps names, with the fates of the calls to come. Once these are used
up, all calls are answered. -/
def world (nodeId : String) : World (Names × List Fate) where
  answer := fun (names, fates) call =>
    let (fate, rest) := Script.next .answered fates
    (fate.outcome call, if fate.served then names.after nodeId call else names, rest)

/-- In this world a node keeps names. -/
theorem world_keeps_names (nodeId : String) : (world nodeId).KeepsNames nodeId Prod.fst where
  answered := by
    rintro ⟨names, fates⟩ after call answer h
    simp only [world, Prod.mk.injEq] at h
    obtain ⟨houtcome, rfl⟩ := h
    cases hfate : (Script.next .answered fates).1 with
    | answered => rfl
    | failed status served =>
        rw [hfate] at houtcome
        cases call with
        | register | cluster => cases served <;> rfl
        | dial | agent => cases houtcome
    | hung served =>
        rw [hfate] at houtcome
        cases call with
        | register | cluster => cases served <;> rfl
        | dial | agent => cases houtcome
  unanswered := by
    rintro ⟨names, fates⟩ call
    simp only [world]
    split
    · exact .inr rfl
    · exact .inl rfl

end Agent.Names

end EdgeFleet
