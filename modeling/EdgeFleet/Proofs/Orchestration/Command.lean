import EdgeFleet.Proofs.Orchestration.Action
import EdgeFleet.Proofs.Orchestration.Script

/-!
# Runs of commands

What a start, stop or restart does in a scripted world whose calls may meet faults. A command that
the number of copies does not allow changes nothing. One that is allowed scales the deployment
through its numbers of copies and stops at the first fault: `run_scale_all` says how far it gets.
-/

namespace EdgeFleet

open Cluster Placing Script

/-- A deployment without copies can be started, and one with copies stopped or restarted. -/
theorem Command.allowed_run_state (command : Command) (current : Deployment) :
    command.allowed current.runState ↔
      if command = .start then ¬ current.replicas > 0 else current.replicas > 0 := by
  by_cases hrunning : current.replicas > 0
  · rw [Deployment.runState, if_pos hrunning]
    cases command <;> simp [Command.allowed, hrunning]
  · rw [Deployment.runState, if_neg hrunning]
    cases command <;> simp [Command.allowed, hrunning]

section Scaling

variable {name : String} {script : Script} {current : Deployment} {α : Type}
  (operation : String) (result : Except Error α)

/-- Scalings are made up to the first that meets a fault. -/
theorem run_scale_all (counts : List Int)
    (hfound : script.store.deployment? name = some current) :
    let ended := (scaleAll name result counts).run world operation script
    Confined name script ended.2 ∧ ∃ n ≤ counts.length,
      ended.2.store.deployment? name = some ((counts.take n).foldl Deployment.scaled current) ∧
        (∀ m < n, (script.reply m).isFault = false) ∧
        if n = counts.length then ended.1 = result
        else (script.reply n).isFault ∧ ∃ error, ended.1 = .error error := by
  induction counts generalizing script current with
  | nil => exact ⟨.refl script, 0, Nat.le_refl 0, hfound, by simp, rfl⟩
  | cons count counts ih =>
      simp only [scaleAll]
      cases hfault : (script.reply 0).isFault with
      | true =>
          obtain ⟨error, hended⟩ := run_fault hfault
          rw [hended]
          exact ⟨.same _, 0, Nat.zero_le _, hfound, by simp, hfault, error, rfl⟩
      | false =>
          rw [run_scale (ClusterReply.performs_of_fault hfault (by simp)) hfound]
          have hscaled : (script.noted (.scaleDeployment name count) (script.store.putDeployment
              name (current.scaled count))).store.deployment? name =
                some (current.scaled count) := by
            simp
          obtain ⟨hconfined, n, hn, hlast, hbefore, hend⟩ := ih hscaled
          refine ⟨.trans (.put _ _) hconfined, n + 1, Nat.succ_le_succ hn, hlast, ?_, ?_⟩
          · intro m hm
            cases m with
            | zero => exact hfault
            | succ m =>
                rw [← reply_noted]
                exact hbefore m (Nat.lt_of_succ_lt_succ hm)
          · simpa using hend

/-- In a steady script all scalings are made. -/
theorem run_scale_all_steady (counts : List Int) (hsteady : script.Steady)
    (hfound : script.store.deployment? name = some current) :
    let ended := (scaleAll name result counts).run world operation script
    Confined name script ended.2 ∧ ended.1 = result ∧
      ended.2.store.deployment? name = some (counts.foldl Deployment.scaled current) := by
  obtain ⟨hconfined, n, hn, hlast, -, hend⟩ := run_scale_all operation result counts hfound
  split at hend
  · next hall =>
      rw [hall, List.take_length] at hlast
      exact ⟨hconfined, hend, hlast⟩
  · rw [hsteady.is_fault] at hend
    cases hend.1

end Scaling

namespace Controller

variable {controller : Controller} {placing : Placing} {nodeId serial : String}
  {ref : WorkloadRef} {script : Script} {current : Deployment} {command : Command}
  (hbackend : controller.backend = placing.backend)
  (hserial : placing.serial nodeId = .ok serial)
  (hid : ref.id ≠ "")
  (hfound : script.store.deployment? (deploymentName ref.id serial) = some current)
  (hget : (script.reply 0).isFault = false)
include hbackend hserial hid hfound hget

/-- A command that the number of copies allows fetches the deployment and then scales it. -/
theorem run_command_allowed (hallowed : command.allowed current.runState) :
    (controller.carryOut nodeId (.command ref command)).run world script =
      (scaleAll (deploymentName ref.id serial) (.ok (some command.target)) (counts command)).run
        world command.name
        (script.noted (.getDeployment (deploymentName ref.id serial)) script.store) := by
  rw [Operation.run, carry_out_command hbackend hserial hid,
    run_performed (ClusterReply.performs_of_fault hget (by simp))]
  simp only [Store.perform_get_deployment, hfound, present_some, Command.check_allowed hallowed,
    Program.done_ok_bind]
  rfl

/-- A command that the number of copies does not allow fetches the deployment and is refused. -/
theorem run_command_refused (hrefused : command.allowed current.runState = false) :
    (controller.carryOut nodeId (.command ref command)).run world script =
      (.error (.failedPrecondition (.command command current.runState)),
        script.noted (.getDeployment (deploymentName ref.id serial)) script.store) := by
  rw [Operation.run, carry_out_command hbackend hserial hid,
    run_performed (ClusterReply.performs_of_fault hget (by simp))]
  simp only [Store.perform_get_deployment, hfound, present_some, Command.check_refused hrefused,
    Program.done_error_bind, Program.run_done]

end Controller

end EdgeFleet
