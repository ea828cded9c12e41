import EdgeFleet.Proofs.Orchestration.Command
import EdgeFleet.Proofs.Orchestration.Turns
import Mathlib.Tactic.IntervalCases

/-!
# Redeploying while a command is carried out

A redeploy fetches the deployment and later puts another one in its place, with the number of copies
that it has read. `redeploy_against_command` says what becomes of a start, stop or restart of the
same workload at the same time: the redeploy undoes it exactly if the last scaling of the command
comes between the two calls, or finds nothing to scale.
-/

namespace EdgeFleet

open Cluster Placing Script Operation

/-- A redeploy fails on what it fetches, or puts a deployment in place that asks for as many
copies. -/
def Refits (name : String) (next : Option Deployment → Program (Option Status)) : Prop :=
  ∀ current, (∃ error, next (some current) = .done (.error error)) ∨
    ∃ deployment, Store.nameOf deployment.metadata = name ∧
      deployment.replicas? = some current.replicas ∧ deployment.spec.isSome ∧
        next (some current) =
          .proceed (.cluster (.applyDeployment deployment)) fun _ => .done (.ok none)

/-- A command fails on what it fetches, or scales it if it is allowed. -/
def Guards (name : String) (command : Command)
    (next : Option Deployment → Program (Option Status)) : Prop :=
  ∀ current, if command.allowed current.runState then
      next (some current) = scaleAll name (.ok (some command.target)) (Placing.counts command)
    else ∃ error, next (some current) = .done (.error error)

section Turns

variable {name first second : String} {script last : Script} {turns : List Nat}
  {current deployment : Deployment} {counts : List Int} {value status reported : Option Status}
  {result : Except Error (Option Status)}

/-- A turn that scales a deployment leaves it scaled. -/
theorem ends_scaling {operation : Operation (Option Status)} {count : Int}
    (hfound : script.store.deployment? name = some current)
    (h : Ends world (1 :: turns)
      [operation, ⟨second, scaleAll name (.ok status) (count :: counts)⟩] script
      [.ok value, .ok reported] last) :
    ∃ after, after.store.deployment? name = some (current.scaled count) ∧
      Ends world turns [operation, ⟨second, scaleAll name (.ok status) counts⟩] after
        [.ok value, .ok reported] last := by
  obtain ⟨_, store, hperform, hrest⟩ := h.performed (k := 1) (by simp) rfl rfl
  rw [Store.perform_scale hfound] at hperform
  obtain rfl : script.store.putDeployment name (current.scaled count) = store :=
    congrArg Prod.snd hperform
  exact ⟨_, by simp, hrest⟩

/-- Scalings that come after a redeploy scale what it has left. -/
theorem ends_redeployed (hfound : script.store.deployment? name = some current)
    (h : Ends world turns
      [⟨first, .done result⟩, ⟨second, scaleAll name (.ok status) counts⟩] script
      [.ok value, .ok reported] last) :
    turns = List.replicate counts.length 1 ∧ reported = status ∧
      last.store.deployment? name = some (counts.foldl Deployment.scaled current) := by
  induction counts generalizing turns script current with
  | nil =>
      obtain ⟨rfl, hdone, rfl⟩ | ⟨_, _, _, -, hcall⟩ | ⟨_, _, _, -, hcall⟩ := h.pair_cases
      · simp only [scaleAll, List.map_cons, List.map_nil, List.cons.injEq, Program.done.injEq,
          Except.ok.injEq, and_true] at hdone
        exact ⟨rfl, hdone.2.symm, hfound⟩
      · cases hcall
      · cases hcall
  | cons count counts ih =>
      obtain ⟨-, hdone, -⟩ | ⟨_, _, _, -, hcall⟩ | ⟨rest, _, _, rfl, -⟩ := h.pair_cases
      · simp [scaleAll] at hdone
      · cases hcall
      · obtain ⟨after, hscaled, hrest⟩ := ends_scaling hfound h
        obtain ⟨hturns, hreported, hlast⟩ := ih hscaled hrest
        exact ⟨by rw [hturns]; rfl, hreported, hlast⟩

/-- A redeploy that has only its last call to make puts its deployment in place. -/
theorem ends_placing {next : Program (Option Status)}
    (hname : Store.nameOf deployment.metadata = name)
    (h : Ends world (0 :: turns)
      [⟨first, .proceed (.cluster (.applyDeployment deployment)) fun _ => .done (.ok none)⟩,
        ⟨second, next⟩] script [.ok value, .ok reported] last) :
    ∃ after, after.store.deployment? name = some deployment ∧
      Ends world turns [⟨first, .done (.ok none)⟩, ⟨second, next⟩] after
        [.ok value, .ok reported] last := by
  obtain ⟨_, store, hperform, hrest⟩ := h.performed (k := 0) (by simp) rfl rfl
  rw [Store.perform_apply_deployment, hname] at hperform
  obtain rfl : script.store.putDeployment name deployment = store := congrArg Prod.snd hperform
  exact ⟨_, by simp, hrest⟩

/-- A redeploy that has fetched puts its deployment in place after some of the scalings, and the
others scale it. -/
theorem ends_redeploying (hfound : script.store.deployment? name = some current)
    (hname : Store.nameOf deployment.metadata = name)
    (h : Ends world turns
      [⟨first, .proceed (.cluster (.applyDeployment deployment)) fun _ => .done (.ok none)⟩,
        ⟨second, scaleAll name (.ok status) counts⟩] script [.ok value, .ok reported] last) :
    ∃ j ≤ counts.length,
      turns = List.replicate j 1 ++ 0 :: List.replicate (counts.length - j) 1 ∧
        reported = status ∧ last.store.deployment? name =
          some ((counts.drop j).foldl Deployment.scaled deployment) := by
  induction counts generalizing turns script current with
  | nil =>
      obtain ⟨-, hdone, -⟩ | ⟨_, _, _, rfl, -⟩ | ⟨_, _, _, -, hcall⟩ := h.pair_cases
      · simp at hdone
      · obtain ⟨after, hput, hrest⟩ := ends_placing hname h
        obtain ⟨hturns, hreported, hlast⟩ := ends_redeployed hput hrest
        exact ⟨0, Nat.le_refl 0, by rw [hturns]; rfl, hreported, hlast⟩
      · cases hcall
  | cons count counts ih =>
      obtain ⟨-, hdone, -⟩ | ⟨_, _, _, rfl, -⟩ | ⟨rest, _, _, rfl, -⟩ := h.pair_cases
      · simp at hdone
      · obtain ⟨after, hput, hrest⟩ := ends_placing hname h
        obtain ⟨hturns, hreported, hlast⟩ := ends_redeployed hput hrest
        exact ⟨0, Nat.zero_le _, by rw [hturns]; rfl, hreported, hlast⟩
      · obtain ⟨after, hscaled, hrest⟩ := ends_scaling hfound h
        obtain ⟨j, hj, hturns, hreported, hlast⟩ := ih hscaled hrest
        refine ⟨j + 1, Nat.succ_le_succ hj, ?_, hreported, hlast⟩
        simp [hturns, List.replicate_succ]

variable {refit guard : Option Deployment → Program (Option Status)} {command : Command}

/-- A redeploy that fetches a deployment has one to put in place. -/
theorem ends_fetching {operation : Operation (Option Status)} (hrefits : Refits name refit)
    (hfound : script.store.deployment? name = some current)
    (h : Ends world (0 :: turns)
      [⟨first, .proceed (.cluster (.getDeployment name)) refit⟩, operation] script
      [.ok value, .ok reported] last) :
    ∃ deployment after, Store.nameOf deployment.metadata = name ∧
      deployment.replicas? = some current.replicas ∧ deployment.spec.isSome ∧
        after.store.deployment? name = some current ∧
          Ends world turns
            [⟨first, .proceed (.cluster (.applyDeployment deployment)) fun _ => .done (.ok none)⟩,
              operation] after [.ok value, .ok reported] last := by
  obtain ⟨found, store, hperform, hrest⟩ := h.performed (k := 0) (by simp) rfl rfl
  obtain ⟨hanswer, rfl⟩ := Prod.mk.inj hperform
  obtain rfl : some current = found := hfound.symm.trans (Except.ok.inj hanswer)
  obtain ⟨error, hfail⟩ | ⟨deployment, hname, hreplicas, hspec, hplace⟩ := hrefits current
  · rw [hfail] at hrest
    cases hrest.result (k := 0) rfl
  · rw [hplace] at hrest
    have hstill : (script.noted (.getDeployment name) script.store).store.deployment? name =
        some current := hfound
    exact ⟨deployment, _, hname, hreplicas, hspec, hstill, hrest⟩

/-- A command that fetches a deployment is allowed and has its scalings to make. -/
theorem ends_checking {operation : Operation (Option Status)} (hguards : Guards name command guard)
    (hfound : script.store.deployment? name = some current)
    (h : Ends world (1 :: turns)
      [operation, ⟨second, .proceed (.cluster (.getDeployment name)) guard⟩] script
      [.ok value, .ok reported] last) :
    command.allowed current.runState ∧ ∃ after, after.store.deployment? name = some current ∧
      Ends world turns
        [operation, ⟨second, scaleAll name (.ok (some command.target)) (Placing.counts command)⟩]
        after [.ok value, .ok reported] last := by
  obtain ⟨found, store, hperform, hrest⟩ := h.performed (k := 1) (by simp) rfl rfl
  obtain ⟨hanswer, rfl⟩ := Prod.mk.inj hperform
  obtain rfl : some current = found := hfound.symm.trans (Except.ok.inj hanswer)
  have hnext := hguards current
  split at hnext
  · next hallowed =>
      rw [hnext] at hrest
      have hstill : (script.noted (.getDeployment name) script.store).store.deployment? name =
          some current := hfound
      exact ⟨hallowed, _, hstill, hrest⟩
  · obtain ⟨error, hfail⟩ := hnext
    rw [hfail] at hrest
    cases hrest.result (k := 1) rfl

/-- A redeploy that comes while a command scales reads the number of copies after some scalings
and puts its deployment in place after some more. -/
theorem ends_while_scaling (hrefits : Refits name refit)
    (hfound : script.store.deployment? name = some current)
    (h : Ends world turns
      [⟨first, .proceed (.cluster (.getDeployment name)) refit⟩,
        ⟨second, scaleAll name (.ok status) counts⟩] script [.ok value, .ok reported] last) :
    ∃ i j, i + j ≤ counts.length ∧
      turns = List.replicate i 1 ++ 0 :: (List.replicate j 1 ++
        0 :: List.replicate (counts.length - (i + j)) 1) ∧ reported = status ∧
      ∃ deployment,
        deployment.replicas? = some ((counts.take i).foldl Deployment.scaled current).replicas ∧
          deployment.spec.isSome ∧ last.store.deployment? name =
            some ((counts.drop (i + j)).foldl Deployment.scaled deployment) := by
  -- On the scalings still to come: `current` is what those made so far have left.
  induction counts generalizing turns script current with
  | nil =>
      obtain ⟨-, hdone, -⟩ | ⟨_, _, _, rfl, -⟩ | ⟨_, _, _, -, hcall⟩ := h.pair_cases
      · simp at hdone
      · obtain ⟨deployment, after, hname, hreplicas, hspec, hstill, hrest⟩ :=
          ends_fetching hrefits hfound h
        obtain ⟨j, hj, hturns, hreported, hlast⟩ := ends_redeploying hstill hname hrest
        refine ⟨0, j, by omega, ?_, hreported, deployment, hreplicas, hspec, ?_⟩
        · simp [hturns]
        · simpa using hlast
      · cases hcall
  | cons count counts ih =>
      obtain ⟨-, hdone, -⟩ | ⟨_, _, _, rfl, -⟩ | ⟨_, _, _, rfl, -⟩ := h.pair_cases
      · simp at hdone
      · obtain ⟨deployment, after, hname, hreplicas, hspec, hstill, hrest⟩ :=
          ends_fetching hrefits hfound h
        obtain ⟨j, hj, hturns, hreported, hlast⟩ := ends_redeploying hstill hname hrest
        refine ⟨0, j, by omega, ?_, hreported, deployment, hreplicas, hspec, ?_⟩
        · simp [hturns]
        · simpa using hlast
      · obtain ⟨after, hscaled, hrest⟩ := ends_scaling hfound h
        obtain ⟨i, j, hij, hturns, hreported, deployment, hreplicas, hspec, hlast⟩ :=
          ih hscaled hrest
        refine ⟨i + 1, j, by simp; omega, ?_, hreported, deployment, hreplicas, hspec, ?_⟩
        · rw [hturns, List.replicate_succ]
          simp [Nat.add_right_comm i 1 j]
        · simpa [Nat.add_right_comm i 1 j] using hlast

/-- A command whose turns come after those of a redeploy is carried out on what that has left. -/
theorem ends_commanding (hguards : Guards name command guard)
    (hfound : script.store.deployment? name = some current)
    (h : Ends world turns
      [⟨first, .done result⟩, ⟨second, .proceed (.cluster (.getDeployment name)) guard⟩] script
      [.ok value, .ok reported] last) :
    command.allowed current.runState ∧
      turns = List.replicate ((Placing.counts command).length + 1) 1 ∧
        reported = some command.target ∧ last.store.deployment? name =
          some ((Placing.counts command).foldl Deployment.scaled current) := by
  obtain ⟨-, hdone, -⟩ | ⟨_, _, _, -, hcall⟩ | ⟨_, _, _, rfl, -⟩ := h.pair_cases
  · simp at hdone
  · cases hcall
  · obtain ⟨hallowed, after, hstill, hrest⟩ := ends_checking hguards hfound h
    obtain ⟨hturns, hreported, hlast⟩ := ends_redeployed hstill hrest
    exact ⟨hallowed, by rw [hturns, List.replicate_succ], hreported, hlast⟩

/-- A command that comes while a redeploy has only its last call to make checks the number of
copies that the redeploy has read, and the redeploy puts its deployment in place after some of its
turns. -/
theorem ends_while_redeploying (hguards : Guards name command guard)
    (hfound : script.store.deployment? name = some current)
    (hname : Store.nameOf deployment.metadata = name)
    (hreplicas : deployment.replicas? = some current.replicas)
    (h : Ends world turns
      [⟨first, .proceed (.cluster (.applyDeployment deployment)) fun _ => .done (.ok none)⟩,
        ⟨second, .proceed (.cluster (.getDeployment name)) guard⟩] script
      [.ok value, .ok reported] last) :
    command.allowed current.runState ∧ ∃ j ≤ (Placing.counts command).length + 1,
      turns = List.replicate j 1 ++
        0 :: List.replicate ((Placing.counts command).length + 1 - j) 1 ∧
        reported = some command.target ∧ last.store.deployment? name =
          some (((Placing.counts command).drop (j - 1)).foldl Deployment.scaled deployment) := by
  have hcount : deployment.replicas = current.replicas := by
    rw [Deployment.replicas, hreplicas, Option.getD_some]
  have hstate : deployment.runState = current.runState := by
    rw [Deployment.runState, hcount, ← Deployment.runState]
  -- The command may also check what the redeploy has put in place, which is as good.
  obtain ⟨-, hdone, -⟩ | ⟨_, _, _, rfl, -⟩ | ⟨_, _, _, rfl, -⟩ := h.pair_cases
  · simp at hdone
  · obtain ⟨after, hput, hrest⟩ := ends_placing hname h
    obtain ⟨hallowed, hturns, hreported, hlast⟩ := ends_commanding hguards hput hrest
    exact ⟨hstate ▸ hallowed, 0, Nat.zero_le _, by rw [hturns]; rfl, hreported, hlast⟩
  · obtain ⟨hallowed, after, hstill, hrest⟩ := ends_checking hguards hfound h
    obtain ⟨j, hj, hturns, hreported, hlast⟩ := ends_redeploying hstill hname hrest
    refine ⟨hallowed, j + 1, Nat.succ_le_succ hj, ?_, hreported, hlast⟩
    simp [hturns, List.replicate_succ]

/-- A redeploy and a command at a time: after `i` turns of the command the redeploy reads the number
of copies, and after `j` more it puts its deployment in place. The first turn of the command only
checks that number. -/
theorem ends_redeploy_command (hrefits : Refits name refit) (hguards : Guards name command guard)
    (hfound : script.store.deployment? name = some current)
    (h : Ends world turns
      [⟨first, .proceed (.cluster (.getDeployment name)) refit⟩,
        ⟨second, .proceed (.cluster (.getDeployment name)) guard⟩] script
      [.ok value, .ok reported] last) :
    command.allowed current.runState ∧ ∃ i j, i + j ≤ (Placing.counts command).length + 1 ∧
      turns = List.replicate i 1 ++ 0 :: (List.replicate j 1 ++
        0 :: List.replicate ((Placing.counts command).length + 1 - (i + j)) 1) ∧
      reported = some command.target ∧
      ∃ deployment,
        deployment.replicas? = some
          (((Placing.counts command).take (i - 1)).foldl Deployment.scaled current).replicas ∧
          deployment.spec.isSome ∧ last.store.deployment? name =
            some (((Placing.counts command).drop (i + j - 1)).foldl Deployment.scaled
              deployment) := by
  obtain ⟨-, hdone, -⟩ | ⟨_, _, _, rfl, -⟩ | ⟨_, _, _, rfl, -⟩ := h.pair_cases
  · simp at hdone
  · obtain ⟨deployment, after, hname, hreplicas, hspec, hstill, hrest⟩ :=
      ends_fetching hrefits hfound h
    obtain ⟨hallowed, j, hj, hturns, hreported, hlast⟩ :=
      ends_while_redeploying hguards hstill hname hreplicas hrest
    refine ⟨hallowed, 0, j, by omega, ?_, hreported, deployment, hreplicas, hspec, ?_⟩
    · simp [hturns]
    · simpa using hlast
  · obtain ⟨hallowed, after, hstill, hrest⟩ := ends_checking hguards hfound h
    obtain ⟨i, j, hij, hturns, hreported, deployment, hreplicas, hspec, hlast⟩ :=
      ends_while_scaling hrefits hstill hrest
    refine ⟨hallowed, i + 1, j, by omega, ?_, hreported, deployment, hreplicas, hspec, ?_⟩
    · rw [hturns, List.replicate_succ]
      simp [Nat.add_right_comm i 1 j]
    · simpa [Nat.add_right_comm i 1 j] using hlast

end Turns

/-- A number of copies agrees with a status that a command has reported. -/
def Status.Agrees : Status → Int → Prop
  | .running, count => count > 0
  | .stopped, count => count = 0
  | _, _ => False

/-- The turns with which a redeploy, the operation 0, undoes a command, the operation 1: it puts its
deployment in place last, and has read the number of copies before the last scaling. -/
def Command.undoing : Command → List Nat
  | .start | .stop => [1, 0]
  | .restart => [0, 1, 0]

/-- Whether some turns let a redeploy undo a command. Scaling does nothing for a deployment that
does not say what it is to be, so that it is enough then that the redeploy is last. -/
def Command.Undone (command : Command) (current : Deployment) (turns : List Nat) : Prop :=
  command.undoing <:+ turns ∨ (current.spec = none ∧ [0] <:+ turns)

/-- Where the turns of a redeploy stand among those of a command decides whether the number of
copies agrees with the command in the end. -/
theorem agrees_iff {command : Command} {current deployment : Deployment} {i j : Nat}
    (hallowed : command.allowed current.runState)
    (hij : i + j ≤ (Placing.counts command).length + 1)
    (hreplicas : deployment.replicas? = some
      (((Placing.counts command).take (i - 1)).foldl Deployment.scaled current).replicas)
    (hspec : deployment.spec.isSome) :
    command.target.Agrees
        (((Placing.counts command).drop (i + j - 1)).foldl Deployment.scaled deployment).replicas ↔
      ¬ command.Undone current (List.replicate i 1 ++ 0 :: (List.replicate j 1 ++
        0 :: List.replicate ((Placing.counts command).length + 1 - (i + j)) 1)) := by
  have hread : deployment.replicas =
      (((Placing.counts command).take (i - 1)).foldl Deployment.scaled current).replicas := by
    rw [Deployment.replicas, hreplicas, Option.getD_some]
  rw [Deployment.count_scaled_all hspec, hread]
  rw [Command.allowed_run_state] at hallowed
  simp only [Command.Undone]
  -- What is left is a finite matter: a command has two or three turns.
  cases command with
  | start =>
      have hstopped : ¬ current.replicas > 0 := hallowed
      simp only [Placing.counts, List.length_cons, List.length_nil] at hij ⊢
      have hi : i ≤ 2 := by omega
      have hj : j ≤ 2 - i := by omega
      cases hcurrent : current.spec with
      | none =>
          rw [Deployment.replicas_scaled_none hcurrent]
          interval_cases i <;> interval_cases j <;> simp +decide [Status.Agrees, Command.target]
      | some spec =>
          have hsome : current.spec.isSome := by simp [hcurrent]
          rw [Deployment.count_scaled_all hsome]
          interval_cases i <;> interval_cases j <;>
            simp +decide [Status.Agrees, Command.target, hstopped]
  | stop =>
      have hrunning : current.replicas > 0 := hallowed
      have hcurrent := current.spec_of_positive hrunning
      have hne : current.spec ≠ none := Option.isSome_iff_ne_none.1 hcurrent
      simp only [Placing.counts, List.length_cons, List.length_nil] at hij ⊢
      have hi : i ≤ 2 := by omega
      have hj : j ≤ 2 - i := by omega
      rw [Deployment.count_scaled_all hcurrent]
      interval_cases i <;> interval_cases j <;>
        simp +decide [Status.Agrees, Command.target, hne, hrunning.ne']
  | restart =>
      have hrunning : current.replicas > 0 := hallowed
      have hcurrent := current.spec_of_positive hrunning
      have hne : current.spec ≠ none := Option.isSome_iff_ne_none.1 hcurrent
      simp only [Placing.counts, List.length_cons, List.length_nil] at hij ⊢
      have hi : i ≤ 3 := by omega
      have hj : j ≤ 3 - i := by omega
      rw [Deployment.count_scaled_all hcurrent]
      interval_cases i <;> interval_cases j <;>
        simp +decide [Status.Agrees, Command.target, hne, hrunning]

section Controller

variable {controller : Controller} {placing : Placing} {nodeId serial : String}

/-- Redeploying a workload that does not pass its check makes no call. -/
theorem redeploy_invalid (controller : Controller) (nodeId : String) {workload : Workload}
    {violation : Violation} (hcheck : workload.check = .error violation) :
    ∃ error, controller.carryOut nodeId (.redeploy workload) =
      ⟨"redeploy", .done (.error error)⟩ := by
  simp only [Controller.carryOut, Operation.map, Controller.redeploy, hcheck,
    Program.check_error, Program.monad_lift_eq, Program.done_error_bind, Program.map_eq]
  exact ⟨_, rfl⟩

variable
  (hbackend : controller.backend = placing.backend)
  (hserial : placing.serial nodeId = .ok serial)
include hbackend hserial

/-- A redeploy fetches the deployment and goes on as a redeploy does. -/
theorem redeploy_refits {workload : Workload} (hcheck : workload.check = .ok ()) :
    ∃ refit, controller.carryOut nodeId (.redeploy workload) =
        ⟨"redeploy",
          .proceed (.cluster (.getDeployment (deploymentName workload.id serial))) refit⟩ ∧
      Refits (deploymentName workload.id serial) refit := by
  refine ⟨_, congrArg (Operation.mk "redeploy")
    (Controller.carry_out_redeploy hbackend hserial hcheck), fun current => ?_⟩
  cases hbuild : placing.build nodeId serial workload current.replicas with
  | error error => exact .inl ⟨error, by rw [present_some, hbuild, Program.done_error_bind]⟩
  | ok deployment =>
      obtain ⟨hname, hreplicas, hspec⟩ := Deployment.of_workload_spec hbuild
      exact .inr ⟨deployment, hname, hreplicas, hspec,
        by rw [present_some, hbuild, Program.done_ok_bind]⟩

/-- A command fetches the deployment and goes on as a command does. -/
theorem command_guards {ref : WorkloadRef} (hid : ref.id ≠ "") (command : Command) :
    ∃ guard, controller.carryOut nodeId (.command ref command) =
        ⟨command.name,
          .proceed (.cluster (.getDeployment (deploymentName ref.id serial))) guard⟩ ∧
      Guards (deploymentName ref.id serial) command guard := by
  refine ⟨_, congrArg (Operation.mk command.name)
    (Controller.carry_out_command hbackend hserial hid command), fun current => ?_⟩
  cases hallowed : command.allowed current.runState with
  | true =>
      rw [if_pos rfl, present_some, Command.check_allowed hallowed, Program.done_ok_bind]
  | false =>
      rw [if_neg Bool.false_ne_true, present_some, Command.check_refused hallowed]
      exact ⟨_, rfl⟩

end Controller

/-- A redeploy and a command on one workload, in any order of their calls: if both end well, the
number of copies agrees with the status that the command reported, unless the redeploy undoes the
command. -/
theorem redeploy_against_command {settings : Settings} {broker : Broker}
    {controller : Controller} {hasCluster : Bool} (hmode : settings.mode.usesCluster)
    (hcontroller : Controller.ofSettings settings broker hasCluster = .ok controller)
    {node : Node} (hnode : broker.directory.node node.id = .ok (some node))
    {workload : Workload} {ref : WorkloadRef} (hsame : ref.id = workload.id) (command : Command)
    {script last : Script} {current : Deployment}
    (hfound : script.store.deployment? (deploymentName workload.id node.serial) = some current)
    {turns : List Nat} {value : Option Status} {status : Status}
    (hended : Ends world turns [controller.carryOut node.id (.redeploy workload),
      controller.carryOut node.id (.command ref command)] script
      [.ok value, .ok (some status)] last) :
    (∃ deployment,
        last.store.deployment? (deploymentName workload.id node.serial) = some deployment ∧
          status.Agrees deployment.replicas) ↔
      ¬ command.Undone current turns := by
  obtain ⟨route, hbackend⟩ := Controller.backend_of_cluster_mode hmode hcontroller
  have hserial : (Controller.placing settings broker route).serial node.id = .ok node.serial :=
    Placing.serial_eq hnode
  cases hcheck : workload.check with
  | error violation =>
      obtain ⟨error, hinvalid⟩ := redeploy_invalid controller node.id hcheck
      rw [hinvalid] at hended
      cases hended.result (k := 0) rfl
  | ok =>
      have hid : ref.id ≠ "" := by
        rw [hsame]
        exact Uuid.ne_of_valid (Workload.valid_of_check hcheck)
      obtain ⟨refit, hredeploy, hrefits⟩ := redeploy_refits hbackend hserial hcheck
      obtain ⟨guard, hcommand, hguards⟩ := command_guards hbackend hserial hid command
      rw [hsame] at hcommand hguards
      rw [hredeploy, hcommand] at hended
      obtain ⟨hallowed, i, j, hij, rfl, hreported, deployment, hreplicas, hspec, hlast⟩ :=
        ends_redeploy_command hrefits hguards hfound hended
      obtain rfl := Option.some.inj hreported
      rw [hlast, ← agrees_iff hallowed hij hreplicas hspec]
      simp

namespace Sample

/-- A redeploy of the application and a start. -/
def pair : List (Operation (Option Status)) := [
  controller.carryOut node.id (.redeploy (.app app)),
  controller.carryOut node.id (.command ref .start)]

/-- How the two end after some turns, and how many copies are left. -/
def outcome (turns : List Nat) : Option (List Verdict × Option Int) :=
  (play world turns pair (script (store 0) [])).map fun (results, last) =>
    (results.map Verdict.of,
      (last.store.deployment? (deploymentName app.id node.serial)).map Deployment.replicas)

/-- If both end well, they end as operations that take turns do. -/
theorem ends_of_outcome {turns : List Nat} {value reported : Option Status} {count : Option Int}
    (h : outcome turns = some ([.ok value, .ok reported], count)) :
    ∃ last, Ends world turns pair (script (store 0) []) [.ok value, .ok reported] last ∧
      (last.store.deployment? (deploymentName app.id node.serial)).map Deployment.replicas =
        count := by
  obtain ⟨⟨results, last⟩, hplay, hpair⟩ := Option.map_eq_some_iff.1 h
  obtain ⟨hverdicts, hcount⟩ := Prod.mk.inj hpair
  obtain ⟨first, rest, rfl, hfirst, hrest⟩ := List.map_eq_cons_iff.1 hverdicts
  obtain ⟨second, others, rfl, hsecond, hothers⟩ := List.map_eq_cons_iff.1 hrest
  obtain rfl := List.map_eq_nil_iff.1 hothers
  obtain rfl := Verdict.eq_ok hfirst
  obtain rfl := Verdict.eq_ok hsecond
  exact ⟨last, hplay, hcount⟩

end Sample

/-- A start whose turns all come after those of a redeploy is not undone. -/
theorem redeploy_before_start :
    ∃ last, Ends world [0, 0, 1, 1] Sample.pair (Sample.script (Sample.store 0) [])
        [.ok none, .ok (some .running)] last ∧
      ∃ deployment, last.store.deployment? (deploymentName Sample.app.id Sample.node.serial) =
        some deployment ∧ Status.running.Agrees deployment.replicas := by
  have hfound : (Sample.script (Sample.store 0) []).store.deployment?
      (deploymentName (Workload.app Sample.app).id Sample.node.serial) =
        some (Sample.deployment 0) := by
    decide +kernel
  have houtcome : Sample.outcome [0, 0, 1, 1] = some ([.ok none, .ok (some .running)], some 1) := by
    decide +kernel
  obtain ⟨last, hended, -⟩ := Sample.ends_of_outcome houtcome
  have hkept : ¬ Command.start.Undone (Sample.deployment 0) [0, 0, 1, 1] := by
    rintro (hlast | ⟨-, hlast⟩)
    · exact absurd hlast (by decide)
    · exact absurd hlast (by decide)
  have hsettles :=
    redeploy_against_command rfl Sample.of_settings Sample.node_known rfl .start hfound hended
  exact ⟨last, hended, hsettles.2 hkept⟩

/-- A start that comes between the two calls of a redeploy ends well but leaves no copy. -/
theorem start_undone :
    ∃ last, Ends world [0, 1, 1, 0] Sample.pair (Sample.script (Sample.store 0) [])
        [.ok none, .ok (some .running)] last ∧
      ¬ ∃ deployment, last.store.deployment? (deploymentName Sample.app.id Sample.node.serial) =
        some deployment ∧ Status.running.Agrees deployment.replicas := by
  have houtcome : Sample.outcome [0, 1, 1, 0] = some ([.ok none, .ok (some .running)], some 0) := by
    decide +kernel
  obtain ⟨last, hended, hcount⟩ := Sample.ends_of_outcome houtcome
  refine ⟨last, hended, ?_⟩
  rintro ⟨deployment, hfound, hagrees⟩
  have hzero : deployment.replicas = 0 := by simpa [hfound] using hcount
  rw [hzero] at hagrees
  exact Int.lt_irrefl 0 hagrees

end EdgeFleet
