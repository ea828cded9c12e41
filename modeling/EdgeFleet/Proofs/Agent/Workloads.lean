import EdgeFleet.Orchestration.Script
import EdgeFleet.Proofs.Orchestration.Phase
import Mathlib.Logic.Function.Basic

/-!
# A node that keeps workloads

What a node does with requests about workloads, for theorems about a controller and a node together.
`Agent.serve` follows the lifecycle: a workload is ready once it is deployed, is started, stopped
and restarted only from the statuses that allow it, and is unknown after it is undeployed.
`Agent.serve_follows` compares this with the phases: what is asked of a node ends as the phase of the
workload says, except that a node has a status of its own for deploying a workload again.
-/

namespace EdgeFleet

namespace Agent

/-- The statuses of the workloads that a node keeps, by ID. -/
abbrev Statuses := String → Option WireStatus

/-- The ID in the definition of a workload. -/
def Definition.id : Definition → String
  | .app message => message.id
  | .vnf message => message.id

/-- The definition of a workload bears its ID. -/
@[simp] theorem Definition.id_of_workload (workload : Workload) :
    (ofWorkload workload).id = workload.id := by
  cases workload <;> rfl

/-- Whether a node carries a command out in a status. -/
def accepts : Command → WireStatus → Bool
  | .start, .ready | .start, .stopped => true
  | .stop, .running | .restart, .running => true
  | _, _ => false

/-- What a node says of a workload that it does not keep. -/
def unknown (id : String) : RpcStatus :=
  ⟨.notFound, s!"{id} not found"⟩

/-- What a node does with a request, and the statuses after it. Requests that are not about a
workload change none. -/
def serve (statuses : Statuses) : (request : Request) → Except RpcStatus request.Answer × Statuses
  | .deploy _ definition =>
    match statuses definition.id with
    | some _ => (.error ⟨.alreadyExists, s!"{definition.id} already deployed"⟩, statuses)
    | none => (.ok (), Function.update statuses definition.id (some .ready))
  | .redeploy definition =>
    match statuses definition.id with
    | some _ => (.ok (), statuses)
    | none => (.error (unknown definition.id), statuses)
  | .command _ command id =>
    match statuses id with
    | some status =>
      if accepts command status then
        (.ok (), Function.update statuses id (some command.target.toWire))
      else (.error ⟨.failedPrecondition, s!"{id} is {status.name}"⟩, statuses)
    | none => (.error (unknown id), statuses)
  | .status _ id =>
    match statuses id with
    | some status => (.ok (Int.ofNat status.number), statuses)
    | none => (.error (unknown id), statuses)
  | .undeploy _ id =>
    match statuses id with
    | some _ => (.ok (), Function.update statuses id none)
    | none => (.error (unknown id), statuses)
  | request => (.ok (NodeReply.empty.answer request), statuses)

/-- The world of one node that can be reached, without a cluster. -/
def world : World Statuses where
  answer statuses call :=
    match call with
    | .register _ | .dial _ _ => (.answered (), statuses)
    | .agent _ _ request =>
      match serve statuses request with
      | (.ok answer, after) => (.answered answer, after)
      | (.error status, after) => (.failed status, after)
    | .cluster _ => (.failed (.cluster "no cluster" .service), statuses)

end Agent

/-- The phase of a workload by the status that a node has for it. A node that keeps to the commands
has no other statuses than these. -/
def Phase.reported : Option WireStatus → Option Phase
  | none => some .absent
  | some .ready | some .stopped => some .stopped
  | some .running => some .running
  | some _ => none

namespace Action

/-- What an action asks of a node. -/
def request : Action → Agent.Request
  | .deploy workload => .deploy workload.packaging (.ofWorkload workload)
  | .redeploy workload => .redeploy (.ofWorkload workload)
  | .command ref given => .command ref.family given ref.id
  | .undeploy ref => .undeploy ref.family ref.id

/-- What an action reports that ends well. -/
def report : Action → Option Status
  | .deploy _ => some .deployed
  | .command _ given => some given.target
  | .redeploy _ | .undeploy _ => none

end Action

/-- How an action ends on a node that ends in the cluster as given: a node that keeps a workload
refuses to deploy it with a status that is no category of its own. -/
def Verdict.atNode : Action → Verdict → Verdict
  | .deploy _, .failedPrecondition => .otherError
  | _, verdict => verdict

namespace Phase

variable {found : Option WireStatus}

/-- A node does not know what is absent. -/
theorem reported_absent : reported found = some .absent ↔ found = none := by
  cases found with
  | none => simp [reported]
  | some status => cases status <;> simp [reported]

/-- What is stopped is ready for its first start or was stopped. -/
theorem reported_stopped :
    reported found = some .stopped ↔ found = some .ready ∨ found = some .stopped := by
  cases found with
  | none => simp [reported]
  | some status => cases status <;> simp [reported]

/-- What is running has this status. -/
theorem reported_running : reported found = some .running ↔ found = some .running := by
  cases found with
  | none => simp [reported]
  | some status => cases status <;> simp [reported]

end Phase

namespace Agent

/-- A node follows the phases with an action if what is asked of it ends as the phase of the workload
says, by the way in which nodes refuse what they keep already, and leads to the phase that it
says. -/
def Follows (context : String) (statuses : Statuses) (action : Action) (phase : Phase) : Prop :=
  let served := serve statuses action.request
  Verdict.of ((served.1.map fun _ => action.report).mapError (Error.ofStatus context)) =
      Verdict.atNode action (phase.step action).1 ∧
    Phase.reported (served.2 action.workloadId) = some (phase.step action).2

variable {context : String} {statuses : Statuses} {phase : Phase}

/-- Deploying makes what is absent ready, and is refused otherwise. -/
theorem deploy_follows {workload : Workload}
    (h : Phase.reported (statuses workload.id) = some phase) :
    Follows context statuses (.deploy workload) phase := by
  simp only [Follows, Action.request, Action.workloadId, serve, Definition.id_of_workload]
  cases hfound : statuses workload.id with
  | none =>
      obtain rfl := Option.some.inj (h.symm.trans (Phase.reported_absent.2 hfound))
      simp only [Function.update_self]
      exact ⟨rfl, rfl⟩
  | some status =>
      cases phase with
      | absent => cases hfound.symm.trans (Phase.reported_absent.1 h)
      | stopped => exact ⟨rfl, h⟩
      | running => exact ⟨rfl, h⟩

/-- Redeploying keeps the status of what is there. -/
theorem redeploy_follows {workload : Workload}
    (h : Phase.reported (statuses workload.id) = some phase) :
    Follows context statuses (.redeploy workload) phase := by
  simp only [Follows, Action.request, Action.workloadId, serve, Definition.id_of_workload]
  cases hfound : statuses workload.id with
  | none =>
      obtain rfl := Option.some.inj (h.symm.trans (Phase.reported_absent.2 hfound))
      exact ⟨rfl, h⟩
  | some status =>
      cases phase with
      | absent => cases hfound.symm.trans (Phase.reported_absent.1 h)
      | stopped => exact ⟨rfl, h⟩
      | running => exact ⟨rfl, h⟩

/-- A command that the status allows leads to the phase of the status that it leads to. -/
theorem command_accepted {ref : WorkloadRef} {command : Command} {status : WireStatus}
    {next : Phase} (hfound : statuses ref.id = some status) (haccepts : accepts command status)
    (hstep : phase.step (.command ref command) = (.ok (some command.target), next))
    (hnext : Phase.reported (some command.target.toWire) = some next) :
    Follows context statuses (.command ref command) phase := by
  simp only [Follows, Action.request, Action.workloadId, serve, hfound, haccepts, if_true, hstep,
    Function.update_self]
  exact ⟨rfl, hnext⟩

/-- A command that the status does not allow is refused and changes nothing. -/
theorem command_refused {ref : WorkloadRef} {command : Command} {status : WireStatus}
    (hfound : statuses ref.id = some status) (hrefused : accepts command status = false)
    (hstep : phase.step (.command ref command) = (.failedPrecondition, phase))
    (h : Phase.reported (statuses ref.id) = some phase) :
    Follows context statuses (.command ref command) phase := by
  simp only [Follows, Action.request, Action.workloadId, serve, hfound, hrefused, hstep,
    Bool.false_eq_true, if_false]
  rw [hfound] at h
  exact ⟨rfl, h⟩

/-- A command is carried out in the phase that allows it and refused in every other one. -/
theorem command_follows {ref : WorkloadRef} (command : Command)
    (h : Phase.reported (statuses ref.id) = some phase) :
    Follows context statuses (.command ref command) phase := by
  cases phase with
  | absent =>
      simp only [Follows, Action.request, Action.workloadId, serve, Phase.reported_absent.1 h]
      cases command <;> exact ⟨rfl, rfl⟩
  | stopped =>
      -- Both statuses allow a start and nothing else.
      obtain hfound | hfound := Phase.reported_stopped.1 h
      · cases command with
        | start => exact command_accepted hfound rfl rfl rfl
        | stop => exact command_refused hfound rfl rfl h
        | restart => exact command_refused hfound rfl rfl h
      · cases command with
        | start => exact command_accepted hfound rfl rfl rfl
        | stop => exact command_refused hfound rfl rfl h
        | restart => exact command_refused hfound rfl rfl h
  | running =>
      have hfound := Phase.reported_running.1 h
      cases command with
      | start => exact command_refused hfound rfl rfl h
      | stop => exact command_accepted hfound rfl rfl rfl
      | restart => exact command_accepted hfound rfl rfl rfl

/-- Undeploying makes everything absent. -/
theorem undeploy_follows {ref : WorkloadRef} (h : Phase.reported (statuses ref.id) = some phase) :
    Follows context statuses (.undeploy ref) phase := by
  simp only [Follows, Action.request, Action.workloadId, serve]
  cases hfound : statuses ref.id with
  | none =>
      obtain rfl := Option.some.inj (h.symm.trans (Phase.reported_absent.2 hfound))
      exact ⟨rfl, h⟩
  | some status =>
      simp only [Function.update_self]
      cases phase with
      | absent => cases hfound.symm.trans (Phase.reported_absent.1 h)
      | stopped => exact ⟨rfl, rfl⟩
      | running => exact ⟨rfl, rfl⟩

/-- A node follows the phases with every action. -/
theorem serve_follows {action : Action}
    (h : Phase.reported (statuses action.workloadId) = some phase) :
    Follows context statuses action phase := by
  cases action with
  | deploy workload => exact deploy_follows h
  | redeploy workload => exact redeploy_follows h
  | command ref command => exact command_follows command h
  | undeploy ref => exact undeploy_follows h

end Agent

end EdgeFleet
