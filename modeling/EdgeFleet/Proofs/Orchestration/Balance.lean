import EdgeFleet.Proofs.Orchestration.Phase
import EdgeFleet.Proofs.Orchestration.Serial
import Mathlib.Algebra.BigOperators.Group.List.Basic
import Mathlib.Algebra.Ring.Int.Defs

/-!
# Deploying and undeploying at the same time

Any number of actions on one workload that take turns, where policies are network policies too.
Each of them is at a `Stage`, which says what it has added to the cluster so far: a deploy that ends
well has added the deployment, and an undeploy that finds it has taken it away. `Stage.step` says
that a turn adds what it changes in the cluster. It follows that deploys and undeploys that end well
balance (`deploys_balance_undeploys`), and that of deploys alone exactly one ends well.
-/

namespace EdgeFleet

open Cluster Placing Script Operation

namespace Action

/-- Whether an action deploys. -/
def isDeploy : Action → Bool
  | .deploy _ => true
  | _ => false

/-- Whether an action undeploys. -/
def isUndeploy : Action → Bool
  | .undeploy _ => true
  | _ => false

/-- Whether an action redeploys. -/
def isRedeploy : Action → Bool
  | .redeploy _ => true
  | _ => false

/-- How many of some actions are of a kind and ended well. -/
def succeeded (kind : Action → Bool) (actions : List Action)
    (results : List (Except Error (Option Status))) : Nat :=
  (actions.zip results).countP fun (action, result) => kind action && result.isOk

/-- What an action that ended has added to the cluster. -/
def credit : Action → Except Error (Option Status) → Int
  | .deploy _, .ok _ => 1
  | .undeploy _, .ok _ => -1
  | _, _ => 0

/-- All that actions have added is what deploys have added without what undeploys have taken
away. -/
theorem sum_credit (ended : List (Action × Except Error (Option Status))) :
    (ended.map fun (action, result) => action.credit result).sum =
      (ended.countP fun (action, result) => action.isDeploy && result.isOk : Int) -
        (ended.countP fun (action, result) => action.isUndeploy && result.isOk : Int) := by
  induction ended with
  | nil => rfl
  | cons first rest ih =>
      obtain ⟨action, result⟩ := first
      rw [List.map_cons, List.sum_cons, List.countP_cons, List.countP_cons, ih]
      cases action <;> cases result <;> simp [credit, isDeploy, isUndeploy, Except.isOk,
        Except.toBool] <;> omega

end Action

namespace Script

/-- No call fails, and exactly one machine of the cluster is the node. -/
structure Ready (script : Script) (nodeId : String) : Prop where
  steady : script.Steady
  machines : script.store.machines nodeId = 1

/-- Whether there is a deployment of a name. -/
def holds (script : Script) (name : String) : Bool :=
  (script.store.deployment? name).isSome

/-- How many deployments of a name there are. -/
def presence (script : Script) (name : String) : Int :=
  if script.holds name then 1 else 0

variable {script : Script} {nodeId name : String} {request : Cluster.Request}
  {store : Cluster.Store}

/-- A script stays ready. -/
theorem Ready.noted (h : script.Ready nodeId) (hmachines : store.machines = script.store.machines) :
    (script.noted request store).Ready nodeId :=
  ⟨h.steady.noted, (congrFun hmachines nodeId).trans h.machines⟩

end Script

/-- How far an action on the deployment of a name has got, and what it has added to the cluster so
far. -/
inductive Stage (nodeId name : String) : Action → Program (Option Status) → Int → Prop where
  /-- A deploy is refused at once if the workload does not suit. -/
  | refused {action : Action} (error : Error)
      (h : action.isDeploy → ¬ action.Suits ∧ ∃ cause, error = .validation cause) :
      Stage nodeId name action (.done (.error error)) 0
  | counting {workload : Workload} (hsuits : (Action.deploy workload).Suits)
      {deployment : Deployment} (hname : Store.nameOf deployment.metadata = name) :
      Stage nodeId name (.deploy workload) (.proceed (.cluster (.countNodes nodeId))
        (onlyMachine nodeId (.proceed (.cluster (.createDeployment deployment)) fun _ =>
          .done (.ok (some .deployed))))) 0
  | creating {workload : Workload} (hsuits : (Action.deploy workload).Suits)
      {deployment : Deployment} (hname : Store.nameOf deployment.metadata = name) :
      Stage nodeId name (.deploy workload) (.proceed (.cluster (.createDeployment deployment))
        fun _ => .done (.ok (some .deployed))) 0
  | deployed {workload : Workload} (hsuits : (Action.deploy workload).Suits) :
      Stage nodeId name (.deploy workload) (.done (.ok (some .deployed))) 1
  | taken {workload : Workload} (hsuits : (Action.deploy workload).Suits) :
      Stage nodeId name (.deploy workload)
        (.done (.error (.failedPrecondition (.deploymentExists name)))) 0
  | checking (ref : WorkloadRef) (command : Command) :
      Stage nodeId name (.command ref command) (.proceed (.cluster (.getDeployment name))
        (present name ref fun current =>
          scaleAll name (command.answer current) (command.scalings current))) 0
  | scaling (ref : WorkloadRef) (command : Command) (result : Except Error (Option Status))
      (count : Int) (rest : List Int) :
      Stage nodeId name (.command ref command) (.proceed (.cluster (.scaleDeployment name count))
        fun _ => scaleAll name result rest) 0
  | commanded (ref : WorkloadRef) (command : Command) (result : Except Error (Option Status)) :
      Stage nodeId name (.command ref command) (.done result) 0
  | deleting (ref : WorkloadRef) (policy : String) (error : Error) :
      Stage nodeId name (.undeploy ref) (.proceed (.cluster (.deleteDeployment name))
        fun (existed : Bool) =>
          if existed then
            .proceed (.cluster (.deleteNetworkPolicy policy)) fun _ => .done (.ok none)
          else .done (.error error)) 0
  | clearing (ref : WorkloadRef) (policy : String) :
      Stage nodeId name (.undeploy ref) (.proceed (.cluster (.deleteNetworkPolicy policy)) fun _ =>
        .done (.ok none)) (-1)
  | undeployed (ref : WorkloadRef) : Stage nodeId name (.undeploy ref) (.done (.ok none)) (-1)

/-- A turn of an action, which becomes `program`, adds to the cluster what it changes there. A
deploy never takes anything away, and when it has ended the deployment is there. -/
structure Moved (nodeId name : String) (action : Action) (credit : Int) (script : Script)
    (program : Program (Option Status)) (after : Script) : Prop where
  ready : after.Ready nodeId
  stage : ∃ updated, Stage nodeId name action program updated ∧
    updated + script.presence name = credit + after.presence name
  kept : action.isDeploy → script.holds name → after.holds name
  there : action.isDeploy → ∀ result, program = .done result → after.holds name

/-- An action that does not deploy has less to keep. -/
theorem Moved.of_other {nodeId name : String} {action : Action} {credit : Int} (updated : Int)
    {script after : Script} {program : Program (Option Status)} (hother : action.isDeploy = false)
    (hready : after.Ready nodeId) (hstage : Stage nodeId name action program updated)
    (hbalance : updated + script.presence name = credit + after.presence name) :
    Moved nodeId name action credit script program after :=
  ⟨hready, ⟨updated, hstage, hbalance⟩, by simp [hother], by simp [hother]⟩

namespace Stage

variable {nodeId name : String} {action : Action} {credit : Int} {script : Script}

/-- What is left of a command that has checked the deployment. -/
theorem of_scale_all (ref : WorkloadRef) (command : Command)
    (result : Except Error (Option Status)) (counts : List Int) :
    Stage nodeId name (.command ref command) (scaleAll name result counts) 0 := by
  cases counts with
  | nil => exact .commanded ref command result
  | cons count rest => exact .scaling ref command result count rest

/-- An action that has ended has added what its result says. -/
theorem credit_eq {result : Except Error (Option Status)}
    (h : Stage nodeId name action (.done result) credit) : credit = action.credit result := by
  cases h with
  | refused error h => cases action <;> rfl
  | deployed hsuits => rfl
  | taken hsuits => rfl
  | commanded ref command result => rfl
  | undeployed ref => rfl

/-- A deploy ends well or finds the name taken, unless it was refused. -/
theorem deploy_ended {result : Except Error (Option Status)}
    (h : Stage nodeId name action (.done result) credit) (hdeploy : action.isDeploy) :
    if action.Suits then result = .ok (some .deployed) ∨
        result = .error (.failedPrecondition (.deploymentExists name))
    else ∃ cause, result = .error (.validation cause) := by
  cases h with
  | refused error h =>
      obtain ⟨hunfit, cause, rfl⟩ := h hdeploy
      rw [if_neg hunfit]
      exact ⟨cause, rfl⟩
  | deployed hsuits =>
      rw [if_pos hsuits]
      exact .inl rfl
  | taken hsuits =>
      rw [if_pos hsuits]
      exact .inr rfl
  | commanded ref command result => cases hdeploy
  | undeployed ref => cases hdeploy

/-- What a turn of an action does when the cluster carries it out. -/
theorem step (operation : String) {made : Call}
    {next : Except made.Failure made.Answer → Program (Option Status)}
    (h : Stage nodeId name action (.call made next) credit) (hready : script.Ready nodeId) :
    Moved nodeId name action credit script (Program.advance world operation made next script).1
      (Program.advance world operation made next script).2 := by
  cases h with
  | counting hsuits hname =>
      rw [advance_performed (hready.steady.performs _)]
      simp only [Store.perform_count_nodes, hready.machines, only_machine_one]
      exact ⟨hready.noted rfl, ⟨0, .creating hsuits hname, rfl⟩, fun _ h => h,
        fun _ _ h => (nomatch h)⟩
  | creating hsuits hname =>
      rw [advance_performed (hready.steady.performs _)]
      cases hfound : script.store.deployment? name with
      | none =>
          rw [Store.perform_create_free (hname ▸ hfound), hname]
          exact ⟨hready.noted rfl, ⟨1, .deployed hsuits, by simp [presence, holds, hfound]⟩,
            fun _ _ => by simp [holds], fun _ _ _ => by simp [holds]⟩
      | some present =>
          rw [Store.perform_create_taken (hname ▸ hfound), hname]
          exact ⟨hready.noted rfl, ⟨0, .taken hsuits, rfl⟩, fun _ h => h,
            fun _ _ _ => by simp [holds, hfound]⟩
  | checking ref command =>
      rw [advance_performed (hready.steady.performs _)]
      simp only [Store.perform_get_deployment]
      refine .of_other 0 rfl (hready.noted rfl) ?_ rfl
      cases script.store.deployment? name with
      | none => exact .commanded ref command _
      | some current => exact .of_scale_all ref command _ _
  | scaling ref command result count rest =>
      rw [advance_performed (hready.steady.performs _)]
      cases hfound : script.store.deployment? name with
      | none =>
          simp only [Store.perform, hfound]
          exact .of_other 0 rfl (hready.noted rfl) (.commanded ref command _) rfl
      | some current =>
          rw [Store.perform_scale hfound]
          exact .of_other 0 rfl (hready.noted rfl) (.of_scale_all ref command _ _)
            (by simp [presence, holds, hfound])
  | deleting ref policy error =>
      rw [advance_performed (hready.steady.performs _), Store.perform_delete_deployment]
      cases hfound : script.store.deployment? name with
      | none =>
          exact .of_other 0 rfl (hready.noted rfl) (.refused error (by simp [Action.isDeploy]))
            (by simp [presence, holds, hfound])
      | some current =>
          exact .of_other (-1) rfl (hready.noted rfl) (.clearing ref policy)
            (by simp [presence, holds, hfound])
  | clearing ref policy =>
      rw [advance_performed (hready.steady.performs _), Store.perform_delete_policy]
      exact .of_other (-1) rfl (hready.noted rfl) (.undeployed ref) rfl

end Stage

/-- An action and how far it has got. -/
structure Seat (nodeId name : String) where
  action : Action
  operation : Operation (Option Status)
  credit : Int
  stage : Stage nodeId name action operation.program credit

/-- Actions that take turns have added to the cluster what is there. If all of them deploy, then the
deployment is there as soon as one of them that suits has ended. -/
structure Balanced (nodeId name : String) (actions : List Action) (seats : List (Seat nodeId name))
    (script : Script) : Prop where
  ready : script.Ready nodeId
  actions_eq : seats.map Seat.action = actions
  balance : (seats.map Seat.credit).sum = script.presence name
  there : (∀ action ∈ actions, action.isDeploy) → ∀ seat ∈ seats, seat.action.Suits →
    ∀ result, seat.operation.program = .done result → script.holds name

namespace Balanced

variable {nodeId name operation : String} {actions : List Action} {seats : List (Seat nodeId name)}
  {script last : Script}

/-- A turn keeps the balance. -/
theorem turn (h : Balanced nodeId name actions seats script) {k : Nat} {made : Call}
    {next : Except made.Failure made.Answer → Program (Option Status)}
    (hk : (seats.map Seat.operation)[k]? = some ⟨operation, .call made next⟩) :
    ∃ updated, updated.map Seat.operation = (seats.map Seat.operation).set k
        ⟨operation, (Program.advance world operation made next script).1⟩ ∧
      Balanced nodeId name actions updated
        (Program.advance world operation made next script).2 := by
  rw [List.getElem?_map, Option.map_eq_some_iff] at hk
  obtain ⟨⟨action, _, credit, hstage⟩, hseat, rfl⟩ := hk
  obtain ⟨hlt, hget⟩ := List.getElem?_eq_some_iff.1 hseat
  have hmoved := hstage.step operation h.ready
  obtain ⟨updated, hupdated, hbalance⟩ := hmoved.stage
  let moved : Seat nodeId name := ⟨action, ⟨operation, _⟩, updated, hupdated⟩
  refine ⟨seats.set k moved, List.map_set, hmoved.ready, ?_, ?_, ?_⟩
  · have hlt' : k < (seats.map Seat.action).length := by simpa using hlt
    have hsame : moved.action = (seats.map Seat.action)[k] := by simp [moved, hget]
    rw [List.map_set, hsame, List.set_getElem_self, h.actions_eq]
  · rw [List.map_set, List.sum_set', h.balance]
    simp only [List.length_map, hlt, dite_true, List.getElem_map, hget, moved]
    omega
  · intro hall seat hmem hsuits result hdone
    have hdeploy : action.isDeploy := by
      refine hall action ?_
      rw [← h.actions_eq]
      exact List.mem_map.2 ⟨_, List.mem_of_getElem? hseat, rfl⟩
    rcases List.mem_or_eq_of_mem_set hmem with hold | rfl
    · exact hmoved.kept hdeploy (h.there hall seat hold hsuits result hdone)
    · exact hmoved.there hdeploy result hdone

variable {turns : List Nat} {results : List (Except Error (Option Status))}

/-- So the balance is kept until all actions have ended. -/
theorem ends (h : Balanced nodeId name actions seats script)
    (hended : Ends world turns (seats.map Seat.operation) script results last) :
    ∃ ended : List (Seat nodeId name),
      (ended.map Seat.operation).map program = results.map Program.done ∧
        Balanced nodeId name actions ended last := by
  let holds (operations : List (Operation (Option Status))) (script : Script) : Prop :=
    ∃ seats : List (Seat nodeId name), seats.map Seat.operation = operations ∧
      Balanced nodeId name actions seats script
  obtain ⟨_, hdone, ended, rfl, hlast⟩ := hended.keeps holds
    (by rintro k _ script name made next hk ⟨seats, rfl, hseats⟩; exact hseats.turn hk)
    ⟨seats, rfl, h⟩
  exact ⟨ended, hdone, hlast⟩

variable
  (hdone : (seats.map Seat.operation).map program = results.map Program.done)
include hdone

/-- When all actions have ended, each of them has added what its result says. -/
theorem credits_eq : seats.map Seat.credit =
    ((seats.map Seat.action).zip results).map fun (action, result) => action.credit result := by
  induction seats generalizing results with
  | nil => rfl
  | cons seat rest ih =>
      cases results with
      | nil => simp at hdone
      | cons result others =>
          obtain ⟨hfirst, hrest⟩ := List.cons.inj hdone
          have hstage := seat.stage
          rw [hfirst] at hstage
          simp only [List.map_cons, List.zip_cons_cons, ih hrest, hstage.credit_eq]

/-- Then each of them has come to its end. -/
theorem stage_of_ended {action : Action} {result : Except Error (Option Status)}
    (hended : (action, result) ∈ (seats.map Seat.action).zip results) :
    ∃ seat ∈ seats, seat.action = action ∧ seat.operation.program = .done result := by
  induction seats generalizing results with
  | nil => simp at hended
  | cons seat rest ih =>
      cases results with
      | nil => simp at hdone
      | cons first others =>
          obtain ⟨hfirst, hrest⟩ := List.cons.inj hdone
          rw [List.map_cons, List.zip_cons_cons, List.mem_cons] at hended
          rcases hended with hsame | hother
          · obtain ⟨rfl, rfl⟩ := Prod.mk.inj hsame
            exact ⟨seat, List.mem_cons_self, rfl, hfirst⟩
          · obtain ⟨found, hfound, hseat⟩ := ih hrest hother
            exact ⟨found, List.mem_cons_of_mem _ hfound, hseat⟩

/-- Deploys and undeploys that ended well balance. -/
theorem succeeded_eq (h : Balanced nodeId name actions seats last) :
    (Action.succeeded Action.isDeploy actions results : Int) -
      (Action.succeeded Action.isUndeploy actions results : Int) = last.presence name := by
  rw [← h.balance, credits_eq hdone, h.actions_eq, Action.sum_credit]
  rfl

/-- Of deploys alone exactly one ended well, if any of them could. -/
theorem succeeded_one (h : Balanced nodeId name actions seats last)
    (hall : ∀ action ∈ actions, action.isDeploy) (hsome : ∃ action ∈ actions, action.Suits) :
    Action.succeeded Action.isDeploy actions results = 1 := by
  have hthere : last.holds name := by
    obtain ⟨_, hmem, hsuits⟩ := hsome
    rw [← h.actions_eq] at hmem
    obtain ⟨seat, hseat, rfl⟩ := List.mem_map.1 hmem
    have hended : seat.operation.program ∈ results.map Program.done := by
      rw [← hdone]
      exact List.mem_map_of_mem (List.mem_map_of_mem hseat)
    obtain ⟨result, -, hresult⟩ := List.mem_map.1 hended
    exact h.there hall seat hseat hsuits result hresult.symm
  have hnone : Action.succeeded Action.isUndeploy actions results = 0 := by
    refine List.countP_eq_zero.2 ?_
    rintro ⟨action, result⟩ hmem
    have hdeploy := hall action (List.of_mem_zip hmem).1
    cases action <;> simp_all [Action.isDeploy, Action.isUndeploy]
  have hbalance := succeeded_eq hdone h
  simp only [hnone, presence, hthere, if_true] at hbalance
  omega

end Balanced

namespace Controller

variable {controller : Controller} {placing : Placing} {nodeId serial : String}
  (hbackend : controller.backend = placing.backend)
  (hserial : placing.serial nodeId = .ok serial)

/-- Undeploying a workload without an ID makes no call. -/
theorem undeploy_nameless (controller : Controller) (nodeId : String) {ref : WorkloadRef}
    (hid : ref.id = "") :
    (controller.carryOut nodeId (.undeploy ref)).program =
      .done (.error (.validation (.emptyId ref.family))) := by
  simp only [carryOut, Operation.map, undeploy, checkRef, hid]
  rfl

include hbackend hserial

/-- Deploying a workload that does not suit makes no call either. -/
theorem deploy_unsuited {workload : Workload} (h : ¬ (Action.deploy workload).Suits) :
    ∃ cause, (controller.carryOut nodeId (.deploy workload)).program =
      .done (.error (.validation cause)) := by
  cases hcheck : workload.check with
  | error violation =>
      exact ⟨.violation violation, by simp only [carryOut, Operation.map, deploy, hcheck]; rfl⟩
  | ok =>
      obtain ⟨cause, hrefused⟩ : ∃ cause, placing.build nodeId serial workload 0 =
          .error (.validation cause) :=
        Deployment.of_workload_refused fun hfits => h ⟨hcheck, hfits⟩
      refine ⟨cause, ?_⟩
      simp only [carryOut, Operation.map, deploy, hcheck, hbackend, Placing.backend,
        Placing.deploy, hserial, hrefused, Program.monad_lift_eq, Program.done_ok_bind,
        Program.done_error_bind, Program.map_eq]
      rfl

/-- Where every action begins. A deploy of a workload that suits has a call to make. -/
theorem stage_of_action (hroute : placing.policies = .networkPolicy) {action : Action}
    (hredeploy : action.isRedeploy = false) :
    Stage nodeId (deploymentName action.workloadId serial) action
        (controller.carryOut nodeId action).program 0 ∧
      (action.isDeploy → action.Suits → ∀ result,
        (controller.carryOut nodeId action).program ≠ .done result) := by
  cases action with
  | redeploy workload => cases hredeploy
  | deploy workload =>
      by_cases hsuits : (Action.deploy workload).Suits
      · obtain ⟨deployment, hbuild⟩ : ∃ deployment, placing.build nodeId serial workload 0 =
            .ok deployment := Deployment.of_workload_ok hsuits.2.1 hsuits.2.2
        have hname := (Deployment.of_workload_spec hbuild).1
        rw [carry_out_deploy hbackend hserial hsuits.1 hbuild]
        exact ⟨.counting hsuits hname, fun _ _ _ h => nomatch h⟩
      · obtain ⟨cause, hrefused⟩ := deploy_unsuited hbackend hserial hsuits
        rw [hrefused]
        exact ⟨.refused _ fun _ => ⟨hsuits, cause, rfl⟩, fun _ h => absurd h hsuits⟩
  | command ref command =>
      refine ⟨?_, fun h => nomatch h⟩
      by_cases hid : ref.id = ""
      · rw [carry_out_nameless controller nodeId hid]
        exact .commanded ref command _
      · rw [carry_out_checking hbackend hserial hid]
        exact .checking ref command
  | undeploy ref =>
      refine ⟨?_, fun h => nomatch h⟩
      by_cases hid : ref.id = ""
      · rw [undeploy_nameless controller nodeId hid]
        exact .refused _ fun h => nomatch h
      · rw [carry_out_undeploy hbackend hserial hid hroute]
        exact .deleting ref _ _

/-- Actions on one workload that is absent begin balanced. -/
theorem balanced_of_absent (hroute : placing.policies = .networkPolicy) {actions : List Action}
    {id : String} (hid : ∀ action ∈ actions, action.workloadId = id)
    (hredeploy : ∀ action ∈ actions, action.isRedeploy = false) {script : Script}
    (hready : script.Ready nodeId)
    (habsent : script.store.deployment? (deploymentName id serial) = none) :
    ∃ seats : List (Seat nodeId (deploymentName id serial)),
      seats.map Seat.operation = actions.map (controller.carryOut nodeId) ∧
        Balanced nodeId (deploymentName id serial) actions seats script := by
  have hstage : ∀ action ∈ actions, Stage nodeId (deploymentName id serial) action
      (controller.carryOut nodeId action).program 0 := by
    intro action haction
    rw [← hid action haction]
    exact (stage_of_action hbackend hserial hroute (hredeploy action haction)).1
  let seats := actions.attach.map fun action : { action // action ∈ actions } =>
    (⟨action.1, controller.carryOut nodeId action.1, 0, hstage action.1 action.2⟩ :
      Seat nodeId (deploymentName id serial))
  refine ⟨seats, by simp [seats, Function.comp_def], hready, by simp [seats, Function.comp_def],
    ?_, ?_⟩
  · simp [seats, presence, holds, habsent, Function.comp_def]
  · intro hall seat hseat hsuits result hresult
    obtain ⟨⟨action, haction⟩, -, rfl⟩ := List.mem_map.1 hseat
    have hbegins := (stage_of_action hbackend hserial hroute (hredeploy action haction)).2
    exact absurd hresult (hbegins (hall action haction) hsuits result)

end Controller

/-- Any deploys, undeploys, starts, stops and restarts of one workload that is absent, in any order
of their calls: the deploys that ended well outnumber the undeploys that did by one if the
deployment is there, and by none otherwise. A deploy ends well or finds the name taken, unless the
workload does not suit and is refused. Of deploys alone exactly one ends well, if any of them
could. -/
theorem deploys_balance_undeploys {settings : Settings} {broker : Broker}
    {controller : Controller} {hasCluster : Bool} (hmode : settings.mode = .kubernetesOvn)
    (hcontroller : Controller.ofSettings settings broker hasCluster = .ok controller)
    {nodeId : String} {node : Node} (hnode : broker.directory.node nodeId = .ok (some node))
    {actions : List Action} {id : String} (hid : ∀ action ∈ actions, action.workloadId = id)
    (hredeploy : ∀ action ∈ actions, action.isRedeploy = false) {script last : Script}
    (hready : script.Ready nodeId)
    (habsent : script.store.deployment? (deploymentName id node.serial) = none)
    {turns : List Nat} {results : List (Except Error (Option Status))}
    (hended : Ends world turns (actions.map (controller.carryOut nodeId)) script results last) :
    (Action.succeeded Action.isDeploy actions results : Int) -
        (Action.succeeded Action.isUndeploy actions results : Int) =
          last.presence (deploymentName id node.serial) ∧
      (∀ action result, (action, result) ∈ actions.zip results → action.isDeploy →
        if action.Suits then result = .ok (some .deployed) ∨ result =
          .error (.failedPrecondition (.deploymentExists (deploymentName id node.serial)))
        else ∃ cause, result = .error (.validation cause)) ∧
      ((∀ action ∈ actions, action.isDeploy) → (∃ action ∈ actions, action.Suits) →
        Action.succeeded Action.isDeploy actions results = 1) := by
  have hbackend := Controller.backend_of_ovn_mode hmode hcontroller
  have hserial : (Controller.placing settings broker .networkPolicy).serial nodeId =
      .ok node.serial := Placing.serial_eq hnode
  obtain ⟨seats, hseats, hbalanced⟩ :=
    Controller.balanced_of_absent hbackend hserial rfl hid hredeploy hready habsent
  rw [← hseats] at hended
  obtain ⟨ended, hdone, hlast⟩ := hbalanced.ends hended
  refine ⟨Balanced.succeeded_eq hdone hlast, ?_, Balanced.succeeded_one hdone hlast⟩
  intro action result hmem hdeploy
  rw [← hlast.actions_eq] at hmem
  obtain ⟨seat, -, rfl, hresult⟩ := Balanced.stage_of_ended hdone hmem
  exact (hresult ▸ seat.stage).deploy_ended hdeploy

namespace Sample

/-- Deploys the application. -/
def deploying : Action :=
  .deploy (.app app)

/-- A cluster in which nothing is deployed, with one machine for each node. -/
def vacant : Script :=
  Sample.script Sample.bare []

/-- Nothing stands in the way of deploying there. -/
theorem vacant_ready : vacant.Ready node.id :=
  ⟨rfl, rfl⟩

end Sample

open Sample in
/-- Two deploys that both end well, with an undeploy between them, leave one deployment, and of two
deploys alone only one ends well. -/
theorem deploys_balance_undeploys_both :
    (∃ last, Ends world [0, 2, 0, 1, 2, 1]
        ([deploying, .undeploy ref, deploying].map (controller.carryOut node.id)) vacant
          [.ok (some .deployed), .ok none, .ok (some .deployed)] last ∧
      (2 : Int) - 1 = last.presence (deploymentName app.id node.serial)) ∧
    ∃ results last, Ends world [0, 1, 1, 0]
        ([deploying, deploying].map (controller.carryOut node.id)) vacant results last ∧
      Action.succeeded Action.isDeploy [deploying, deploying] results = 1 := by
  constructor
  · obtain ⟨last, hended⟩ : ∃ last, Ends world [0, 2, 0, 1, 2, 1]
        ([deploying, .undeploy ref, deploying].map (controller.carryOut node.id)) vacant
          [.ok (some .deployed), .ok none, .ok (some .deployed)] last :=
      ends_of_results (by decide +kernel)
    have hid : ∀ action ∈ [deploying, .undeploy ref, deploying], action.workloadId = app.id := by
      decide
    exact ⟨last, hended, (deploys_balance_undeploys rfl of_settings node_known hid (by decide)
      vacant_ready rfl hended).1⟩
  · obtain ⟨last, hended⟩ : ∃ last, Ends world [0, 1, 1, 0]
        ([deploying, deploying].map (controller.carryOut node.id)) vacant
          [.error (.failedPrecondition (.deploymentExists (deploymentName app.id node.serial))),
            .ok (some .deployed)] last :=
      ends_of_results (by decide +kernel)
    have hid : ∀ action ∈ [deploying, deploying], action.workloadId = app.id := by
      decide
    have hsuits : deploying.Suits := ⟨check_app, rfl, by decide⟩
    exact ⟨_, last, hended, (deploys_balance_undeploys rfl of_settings node_known hid (by decide)
      vacant_ready rfl hended).2.2 (by decide) ⟨deploying, List.mem_cons_self, hsuits⟩⟩

open Sample in
/-- A virtual machine is not deployed, even if nothing else is. -/
theorem machine_not_deployed :
    ∃ last, Ends world [] ([.deploy machine].map (controller.carryOut node.id)) vacant
        [.error (.validation (.virtualMachine ref))] last ∧
      Action.succeeded Action.isDeploy [.deploy machine]
        [.error (.validation (.virtualMachine ref))] ≠ 1 := by
  obtain ⟨last, hended⟩ : ∃ last, Ends world []
      ([.deploy machine].map (controller.carryOut node.id)) vacant
        [.error (.validation (.virtualMachine ref))] last :=
    ends_of_results (by decide +kernel)
  exact ⟨last, hended, by decide⟩

end EdgeFleet
