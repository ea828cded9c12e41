import EdgeFleet.Proofs.Orchestration.Command
import EdgeFleet.Proofs.Orchestration.Turns

/-!
# Two commands at a time

A start, stop or restart checks the deployment of a workload and scales it later, in calls of their
own. `commands_serializable_iff` says when two of them that take turns end as if one had been
carried out after the other: unless one of them overtakes the other after both have checked, or
checks in the middle of a restart. `ends_commands` says what becomes of the two in either case.
-/

namespace EdgeFleet

open Cluster Placing Script Operation

namespace Command

/-- How a command ends that finds a deployment. -/
def answer (command : Command) (current : Deployment) : Except Error (Option Status) :=
  (command.check current.runState).map fun _ => some command.target

/-- The numbers of copies to which a command scales a deployment that it finds. -/
def scalings (command : Command) (current : Deployment) : List Int :=
  if command.allowed current.runState then counts command else []

/-- What a command leaves of a deployment that it finds, if nothing else is going on. -/
def leaves (command : Command) (current : Deployment) : Deployment :=
  (command.scalings current).foldl Deployment.scaled current

end Command

/-- A command on the deployment of a name. -/
def checking (name : String) (ref : WorkloadRef) (command : Command) :
    Operation (Option Status) where
  name := command.name
  program := .proceed (.cluster (.getDeployment name)) (present name ref fun current =>
    scaleAll name (command.answer current) (command.scalings current))

/-- What a command is in a controller that keeps workloads in the cluster. -/
theorem Controller.carry_out_checking {controller : Controller} {placing : Placing}
    {nodeId serial : String} (hbackend : controller.backend = placing.backend)
    (hserial : placing.serial nodeId = .ok serial) {ref : WorkloadRef} (hid : ref.id ≠ "")
    (command : Command) :
    controller.carryOut nodeId (.command ref command) =
      checking (deploymentName ref.id serial) ref command := by
  refine congrArg (Operation.mk command.name)
    ((carry_out_command hbackend hserial hid command).trans ?_)
  let name := deploymentName ref.id serial
  refine congrArg (fun next => Program.proceed (.cluster (.getDeployment name))
    (present name ref next)) (funext fun current => ?_)
  cases hallowed : command.allowed current.runState with
  | true =>
      simp only [Command.answer, Command.scalings, Command.check_allowed hallowed, hallowed]
      rfl
  | false =>
      simp only [Command.answer, Command.scalings, Command.check_refused hallowed, hallowed]
      rfl

section Turns

variable {name first second : String} {ref : WorkloadRef} {script last : Script}
  {turns : List Nat} {current : Deployment} {operations : List (Operation (Option Status))}
  {results : List (Except Error (Option Status))} {i j : Nat} {theirs : Operation (Option Status)}
  {one two : Except Error (Option Status)} {counts others : List Int} {command : Command}

/-- A command that has its turn finds the deployment. -/
theorem ends_found (hpair : Pair operations i j (checking name ref command) theirs)
    (hsteady : script.Steady) (hfound : script.store.deployment? name = some current)
    (h : Ends world (i :: turns) operations script results last) :
    ∃ after, after.Steady ∧ after.store.deployment? name = some current ∧
      Ends world turns (operations.set i ⟨command.name,
        scaleAll name (command.answer current) (command.scalings current)⟩) after results last := by
  have hrest := hpair.step rfl h
  rw [advance_performed (hsteady.performs _)] at hrest
  simp only [Store.perform_get_deployment, hfound, present_some] at hrest
  exact ⟨_, hsteady.noted, hfound, hrest⟩

/-- A turn that scales the deployment leaves it scaled. -/
theorem ends_scaled {count : Int}
    (hpair : Pair operations i j ⟨first, scaleAll name one (count :: counts)⟩ theirs)
    (hsteady : script.Steady) (hfound : script.store.deployment? name = some current)
    (h : Ends world (i :: turns) operations script results last) :
    ∃ after, after.Steady ∧ after.store.deployment? name = some (current.scaled count) ∧
      Ends world turns (operations.set i ⟨first, scaleAll name one counts⟩) after results last := by
  have hrest := hpair.step rfl h
  rw [advance_performed (hsteady.performs _), Store.perform_scale hfound] at hrest
  exact ⟨_, hsteady.noted, by simp, hrest⟩

/-- Where the last of some turns leaves a deployment that two operations scale: nobody had to, or
the one whose turn it was did so for the last time. -/
def LastScaled (i j : Nat) (counts others : List Int) (turns : List Nat)
    (current final : Deployment) : Prop :=
  (turns = [] ∧ counts = [] ∧ others = [] ∧ final = current) ∨
    ∃ k count, turns.getLast? = some k ∧ final = current.scaled count ∧
      (k = i ∧ counts.getLast? = some count ∨ k = j ∧ others.getLast? = some count)

namespace LastScaled

variable {final : Deployment}

/-- The two can change places. -/
theorem symm (h : LastScaled i j counts others turns current final) :
    LastScaled j i others counts turns current final := by
  obtain ⟨hturns, hcounts, hothers, hfinal⟩ | ⟨k, count, hlast, hfinal, hk⟩ := h
  · exact .inl ⟨hturns, hothers, hcounts, hfinal⟩
  · exact .inr ⟨k, count, hlast, hfinal, hk.symm⟩

/-- A scaling that comes before the others. -/
theorem cons {count : Int} (h : LastScaled i j counts others turns (current.scaled count) final) :
    LastScaled i j (count :: counts) others (i :: turns) current final := by
  obtain ⟨rfl, rfl, rfl, rfl⟩ | ⟨k, last, hlast, rfl, hk⟩ := h
  · exact .inr ⟨i, count, rfl, rfl, .inl ⟨rfl, rfl⟩⟩
  · refine .inr ⟨k, last, by simp [List.getLast?_cons, hlast], by simp, ?_⟩
    exact hk.imp_left fun ⟨hi, hcounts⟩ => ⟨hi, by simp [List.getLast?_cons, hcounts]⟩

/-- If only one of them has anything to scale, it does all of it. -/
theorem alone (h : LastScaled i j [] others turns current final) :
    final = others.foldl Deployment.scaled current := by
  obtain ⟨-, -, rfl, rfl⟩ | ⟨k, count, -, rfl, ⟨-, hnone⟩ | ⟨-, hlast⟩⟩ := h
  · rfl
  · cases hnone
  · exact (Deployment.scaled_last hlast).symm

/-- A deployment that cannot be scaled is left as it is. -/
theorem none (h : LastScaled i j counts others turns current final) (hspec : current.spec = none) :
    final = current := by
  obtain ⟨-, -, -, rfl⟩ | ⟨_, count, -, rfl, -⟩ := h
  · rfl
  · exact Deployment.scaled_all_none hspec [count]

end LastScaled

/-- Two operations that scale the deployment both end as they are to, and it is left as the last
turn has it. -/
theorem ends_both_scaling
    (hpair : Pair operations i j ⟨first, scaleAll name one counts⟩
      ⟨second, scaleAll name two others⟩)
    (hsteady : script.Steady) (hfound : script.store.deployment? name = some current)
    (h : Ends world turns operations script results last) :
    results[i]? = some one ∧ results[j]? = some two ∧
      ∃ final, last.store.deployment? name = some final ∧
        LastScaled i j counts others turns current final := by
  induction turns generalizing operations script current counts others with
  | nil =>
      obtain ⟨_, hmine⟩ := hpair.idle h
      obtain ⟨_, htheirs⟩ := hpair.symm.idle h
      obtain rfl : counts = [] := by
        cases counts with
        | nil => rfl
        | cons count counts => cases hmine
      obtain rfl : others = [] := by
        cases others with
        | nil => rfl
        | cons count others => cases htheirs
      obtain ⟨-, rfl⟩ := h.idle
      exact ⟨h.result hpair.mine, h.result hpair.theirs, current, hfound, .inl ⟨rfl, rfl, rfl, rfl⟩⟩
  | cons k turns ih =>
      obtain rfl | rfl := hpair.turn h
      · cases counts with
        | nil => exact absurd h (hpair.not_done rfl)
        | cons count counts =>
            obtain ⟨after, hafter, hscaled, hrest⟩ := ends_scaled hpair hsteady hfound h
            obtain ⟨hone, htwo, final, hfinal, hlast⟩ := ih (hpair.set _) hafter hscaled hrest
            exact ⟨hone, htwo, final, hfinal, hlast.cons⟩
      · cases others with
        | nil => exact absurd h (hpair.symm.not_done rfl)
        | cons count others =>
            obtain ⟨after, hafter, hscaled, hrest⟩ := ends_scaled hpair.symm hsteady hfound h
            obtain ⟨hone, htwo, final, hfinal, hlast⟩ :=
              ih (hpair.symm.set _).symm hafter hscaled hrest
            exact ⟨hone, htwo, final, hfinal, hlast.symm.cons.symm⟩

/-- While one operation scales the deployment, a command finds it after some of the scalings. The
others come while the command scales too. -/
theorem ends_while_checking
    (hpair : Pair operations i j ⟨first, scaleAll name one counts⟩ (checking name ref command))
    (hsteady : script.Steady) (hfound : script.store.deployment? name = some current)
    (h : Ends world turns operations script results last) :
    ∃ n ≤ counts.length, ∃ rest, turns = List.replicate n i ++ j :: rest ∧
      let between := (counts.take n).foldl Deployment.scaled current
      results[i]? = some one ∧ results[j]? = some (command.answer between) ∧
        ∃ final, last.store.deployment? name = some final ∧
          LastScaled i j (counts.drop n) (command.scalings between) rest between final := by
  induction turns generalizing operations script current counts with
  | nil =>
      obtain ⟨_, hnone⟩ := hpair.symm.idle h
      cases hnone
  | cons k turns ih =>
      obtain rfl | rfl := hpair.turn h
      · cases counts with
        | nil => exact absurd h (hpair.not_done rfl)
        | cons count counts =>
            obtain ⟨after, hafter, hscaled, hrest⟩ := ends_scaled hpair hsteady hfound h
            obtain ⟨n, hn, rest, rfl, hresults⟩ := ih (hpair.set _) hafter hscaled hrest
            exact ⟨n + 1, Nat.succ_le_succ hn, rest, rfl, hresults⟩
      · obtain ⟨after, hafter, hstill, hrest⟩ := ends_found hpair.symm hsteady hfound h
        obtain ⟨hone, htwo, hfinal⟩ :=
          ends_both_scaling (hpair.symm.set _).symm hafter hstill hrest
        exact ⟨0, Nat.zero_le _, turns, rfl, hone, htwo, hfinal⟩

/-- Of two commands that take turns, the one that begins finds what is there, and the other one what
the first has made of it after `n` of its scalings. -/
theorem ends_commands {former latter : Command}
    (hpair : Pair operations i j (checking name ref former) (checking name ref latter))
    (hsteady : script.Steady) (hfound : script.store.deployment? name = some current)
    (h : Ends world (i :: turns) operations script results last) :
    ∃ n ≤ (former.scalings current).length, ∃ rest, turns = List.replicate n i ++ j :: rest ∧
      let between := ((former.scalings current).take n).foldl Deployment.scaled current
      results[i]? = some (former.answer current) ∧ results[j]? = some (latter.answer between) ∧
        ∃ final, last.store.deployment? name = some final ∧
          LastScaled i j ((former.scalings current).drop n) (latter.scalings between) rest between
            final := by
  obtain ⟨after, hafter, hstill, hrest⟩ := ends_found hpair hsteady hfound h
  exact ends_while_checking (hpair.set _) hafter hstill hrest

end Turns

namespace Script

/-- How many copies the deployment of a name asks for. -/
def copies? (script : Script) (name : String) : Option Int :=
  (script.store.deployment? name).map Deployment.replicas

end Script

/-- Operations end as if they had been carried out one after another: with the same results, and
with as many copies of the deployment of a name. -/
def Sequential (name : String) (operations : List (Operation (Option Status))) (script : Script)
    (results : List (Except Error (Option Status))) (last : Script) : Prop :=
  let (serial, settled) := runAll world operations script
  results = serial ∧ last.copies? name = settled.copies? name

namespace Command

/-- A command overtakes another one: both check the deployment before either scales it, and the
command scales it last, although it is not allowed in the state that the other one leads to. -/
def Overtakes (command other : Command) (current : Deployment) (mine theirs : Nat)
    (turns : List Nat) : Prop :=
  command.allowed current.runState ∧ other.allowed current.runState ∧
    command.allowed other.target = false ∧
      ([mine, theirs] <+: turns ∨ [theirs, mine] <+: turns) ∧ turns.getLast? = some mine

/-- A command is interrupted by another one: it is a restart, and the other one checks the
deployment in the middle of it. -/
def Interrupted (command : Command) (current : Deployment) (mine theirs : Nat)
    (turns : List Nat) : Prop :=
  command = .restart ∧ command.allowed current.runState ∧ [mine, mine, theirs] <+: turns

/-- Two commands, which take the turns `i` and `j`, get in each other's way. A deployment that does
not say what it is to be cannot be scaled, so that it does not matter then. -/
def Clash (former latter : Command) (current : Deployment) (i j : Nat) (turns : List Nat) : Prop :=
  current.spec.isSome ∧
    (former.Overtakes latter current i j turns ∨ latter.Overtakes former current j i turns ∨
      former.Interrupted current i j turns ∨ latter.Interrupted current j i turns)

instance (command other : Command) (current : Deployment) (mine theirs : Nat) (turns : List Nat) :
    Decidable (command.Overtakes other current mine theirs turns) :=
  inferInstanceAs (Decidable (_ ∧ _ ∧ _ ∧ _ ∧ _))

instance (command : Command) (current : Deployment) (mine theirs : Nat) (turns : List Nat) :
    Decidable (command.Interrupted current mine theirs turns) :=
  inferInstanceAs (Decidable (_ ∧ _ ∧ _))

instance (former latter : Command) (current : Deployment) (i j : Nat) (turns : List Nat) :
    Decidable (former.Clash latter current i j turns) :=
  inferInstanceAs (Decidable (_ ∧ _))

/-- It does not matter which of two commands is named first. -/
theorem clash_comm (former latter : Command) (current : Deployment) (i j : Nat)
    (turns : List Nat) :
    former.Clash latter current i j turns ↔ latter.Clash former current j i turns := by
  simp only [Clash]
  tauto

/-- Two commands that are carried out one after the other on a deployment end like this, and leave
so many copies. -/
def InOrder (former latter : Command) (current : Deployment)
    (one two : Except Error (Option Status)) (count : Int) : Prop :=
  one = former.answer current ∧ two = latter.answer (former.leaves current) ∧
    count = (latter.leaves (former.leaves current)).replicas

section Leaving

variable {command former latter : Command} {current : Deployment}

/-- A command that is allowed reports the state that it leads to. -/
theorem answer_allowed (h : command.allowed current.runState) :
    command.answer current = .ok (some command.target) := by
  rw [answer, check_allowed h]
  rfl

/-- Whether a command is allowed can be told from its answer. -/
theorem allowed_of_answer (h : command.answer current = .ok (some command.target)) :
    command.allowed current.runState := by
  cases hallowed : command.allowed current.runState with
  | true => rfl
  | false =>
      rw [answer, check_refused hallowed] at h
      cases h

/-- A command that is refused scales nothing. -/
theorem scalings_refused (h : command.allowed current.runState = false) :
    command.scalings current = [] := by
  simp [scalings, h]

/-- A command that is refused leaves what it has found. -/
theorem leaves_refused (h : command.allowed current.runState = false) :
    command.leaves current = current := by
  simp [leaves, scalings_refused h]

/-- A command that is allowed leaves the deployment with its last number of copies. -/
theorem leaves_allowed (h : command.allowed current.runState) {count : Int}
    (hcount : (counts command).getLast? = some count) :
    command.leaves current = current.scaled count := by
  rw [leaves, scalings, if_pos h, Deployment.scaled_last hcount]

/-- A deployment that can be scaled is in the state that a command leads to, once it has been
scaled to the last number of copies of the command. -/
theorem run_state_scaled (command : Command) (hspec : current.spec.isSome) {count : Int}
    (hcount : (counts command).getLast? = some count) :
    (current.scaled count).runState = command.target := by
  have hreplicas : (current.scaled count).replicas = count := by
    rw [Deployment.replicas, current.replicas_scaled count hspec, Option.getD_some]
  rw [Deployment.runState, hreplicas]
  cases command with
  | start | restart =>
      obtain rfl : 1 = count := Option.some.inj hcount
      rfl
  | stop =>
      obtain rfl : 0 = count := Option.some.inj hcount
      rfl

/-- A command that is allowed leaves a deployment that can be scaled in the state that it leads
to. -/
theorem run_state_leaves (hspec : current.spec.isSome)
    (hallowed : command.allowed current.runState) :
    (command.leaves current).runState = command.target := by
  obtain ⟨count, hcount⟩ : ∃ count, (counts command).getLast? = some count := by
    cases command <;> exact ⟨_, rfl⟩
  rw [leaves_allowed hallowed hcount, run_state_scaled _ hspec hcount]

/-- Of the commands that a state allows, each leads to a state of its own. -/
theorem eq_of_allowed {status : Status} (hformer : former.allowed status)
    (hlatter : latter.allowed status) (htarget : former.target = latter.target) :
    former = latter := by
  cases status <;> cases former <;> cases latter <;> simp_all [allowed, target]

/-- Of two commands that have both checked the same deployment, the one that scales it last seems to
have been carried out after the other, unless it is not allowed then. -/
theorem in_order_of_checked {count : Int} (hspec : current.spec.isSome)
    (hformer : former.allowed current.runState) (hlatter : latter.allowed current.runState)
    (hcount : (counts latter).getLast? = some count) :
    (InOrder former latter current (former.answer current) (latter.answer current)
        (current.scaled count).replicas ∨
      InOrder latter former current (latter.answer current) (former.answer current)
        (current.scaled count).replicas) ↔ latter.allowed former.target := by
  have hstate := run_state_leaves hspec hformer
  constructor
  · rintro (⟨-, hanswer, -⟩ | ⟨-, hanswer, hreplicas⟩)
    · rw [answer_allowed hlatter] at hanswer
      rw [← hstate]
      exact allowed_of_answer hanswer.symm
    · -- In the other order the copies are left to the first of the two, which must be the same
      -- command then.
      rw [answer_allowed hformer] at hanswer
      have hallowed := allowed_of_answer hanswer.symm
      have hlast : (current.scaled count).runState =
          (former.leaves (latter.leaves current)).runState := by
        rw [Deployment.runState, hreplicas, ← Deployment.runState]
      rw [run_state_scaled _ hspec hcount,
        run_state_leaves (by rwa [leaves, Deployment.spec_scaled_all]) hallowed] at hlast
      obtain rfl := eq_of_allowed hformer hlatter hlast.symm
      rwa [hstate] at hallowed
  · intro hallowed
    rw [← hstate] at hallowed
    refine .inl ⟨rfl, ?_, ?_⟩
    · rw [answer_allowed hlatter, answer_allowed hallowed]
    · rw [leaves_allowed hallowed hcount, leaves, Deployment.scaled_all_scaled]

/-- A command that answers the same to two deployments is allowed for both or for neither. -/
theorem allowed_congr {other : Deployment} (h : command.answer current = command.answer other) :
    command.allowed current.runState = command.allowed other.runState := by
  rw [Bool.eq_iff_iff]
  constructor
  · exact fun hallowed => allowed_of_answer (h ▸ answer_allowed hallowed)
  · exact fun hallowed => allowed_of_answer (h ▸ answer_allowed hallowed)

/-- A command that has checked a deployment in the middle of a restart seems to have been carried
out neither before the restart nor after it. -/
theorem not_in_order_of_interrupted {one : Except Error (Option Status)} {count : Int}
    (hspec : current.spec.isSome) (hallowed : restart.allowed current.runState) :
    ¬ (InOrder .restart latter current one (latter.answer (current.scaled 0)) count ∨
      InOrder latter .restart current (latter.answer (current.scaled 0)) one count) := by
  have hstopped : (current.scaled 0).runState = .stopped :=
    run_state_scaled .stop hspec rfl
  have hrunning : current.runState = .running := by
    unfold Deployment.runState at hallowed ⊢
    split
    · rfl
    · next hnone => simp [hnone, allowed] at hallowed
  have hdiffer : latter.allowed .stopped ≠ latter.allowed .running := by
    cases latter <;> decide
  rintro (⟨-, hanswer, -⟩ | ⟨hanswer, -, -⟩)
  · have hsame := allowed_congr hanswer
    rw [hstopped, run_state_leaves hspec hallowed] at hsame
    exact hdiffer hsame
  · have hsame := allowed_congr hanswer
    rw [hstopped, hrunning] at hsame
    exact hdiffer hsame

end Leaving

section Clash

variable {former latter : Command} {current between final : Deployment} {i j n : Nat}
  {rest : List Nat}

/-- Two commands whose turns begin like this clash if both check the deployment at once and one
overtakes the other, or if the one that begins is a restart that has just stopped the workload. -/
theorem clash_iff (hne : i ≠ j) :
    former.Clash latter current i j (i :: (List.replicate n i ++ j :: rest)) ↔
      current.spec.isSome ∧ former.allowed current.runState ∧
        (n = 0 ∧ latter.allowed current.runState ∧
            (former.allowed latter.target = false ∧ (j :: rest).getLast? = some i ∨
              latter.allowed former.target = false ∧ (j :: rest).getLast? = some j) ∨
          n = 1 ∧ former = .restart) := by
  have hne' := hne.symm
  match n with
  | 0 =>
      simp [Clash, Overtakes, Interrupted, List.cons_prefix_cons, hne, hne', and_or_left,
        and_left_comm]
  | 1 => simp [Clash, Overtakes, Interrupted, List.cons_prefix_cons, hne, hne', and_comm]
  | n + 2 => simp [Clash, Overtakes, Interrupted, List.replicate_succ, List.cons_prefix_cons, hne']

/-- Two commands that have both checked the same deployment seem to have been carried out one after
the other unless one of them overtakes the other. -/
theorem in_order_iff_checked (hne : i ≠ j) (hspec : current.spec.isSome)
    (hformer : former.allowed current.runState) (hlatter : latter.allowed current.runState)
    (hlast : LastScaled i j (counts former) (counts latter) rest current final) :
    (InOrder former latter current (former.answer current) (latter.answer current)
        final.replicas ∨
      InOrder latter former current (latter.answer current) (former.answer current)
        final.replicas) ↔
      ¬ (former.allowed latter.target = false ∧ (j :: rest).getLast? = some i ∨
        latter.allowed former.target = false ∧ (j :: rest).getLast? = some j) := by
  obtain ⟨-, hnone, -⟩ | ⟨k, count, hk, rfl, ⟨rfl, hcount⟩ | ⟨rfl, hcount⟩⟩ := hlast
  · cases former <;> cases hnone
  · rw [or_comm, in_order_of_checked hspec hlatter hformer hcount]
    simp [List.getLast?_cons, hk, hne]
  · rw [in_order_of_checked hspec hformer hlatter hcount]
    simp [List.getLast?_cons, hk, hne.symm]

/-- A command that checks when another one is done seems to have been carried out after it. -/
theorem in_order_of_done (hbetween : former.leaves current = between)
    (hlast : LastScaled i j [] (latter.scalings between) rest between final) :
    InOrder former latter current (former.answer current) (latter.answer between)
      final.replicas := by
  subst hbetween
  exact ⟨rfl, rfl, by rw [hlast.alone, ← leaves]⟩

/-- A command that is refused changes nothing, and seems to have come first. -/
theorem in_order_of_refused (hlatter : latter.allowed current.runState = false)
    (hlast : LastScaled i j (former.scalings current) (latter.scalings current) rest current
      final) :
    InOrder latter former current (latter.answer current) (former.answer current)
      final.replicas := by
  rw [scalings_refused hlatter] at hlast
  have hleaves := leaves_refused hlatter
  exact ⟨rfl, by rw [hleaves], by rw [hleaves, hlast.symm.alone, ← leaves]⟩

/-- On a deployment that cannot be scaled, commands seem to have been carried out in any order. -/
theorem in_order_of_none {scaled counts others : List Int} (hspec : current.spec = none)
    (hbetween : scaled.foldl Deployment.scaled current = between)
    (hlast : LastScaled i j counts others rest between final) :
    InOrder former latter current (former.answer current) (latter.answer between)
      final.replicas := by
  have hleaves : ∀ command : Command, command.leaves current = current :=
    fun command => Deployment.scaled_all_none hspec _
  rw [Deployment.scaled_all_none hspec] at hbetween
  subst hbetween
  exact ⟨rfl, by rw [hleaves], by rw [hlast.none hspec, hleaves, hleaves]⟩

/-- A command that is not done is allowed. -/
theorem allowed_of_scalings (h : n < (former.scalings current).length) :
    former.allowed current.runState := by
  cases hcase : former.allowed current.runState with
  | true => rfl
  | false =>
      rw [scalings_refused hcase] at h
      exact absurd h (Nat.not_lt_zero n)

/-- Two commands seem to have been carried out one after the other unless they clash. -/
theorem in_order_iff (hne : i ≠ j) (hn : n ≤ (former.scalings current).length)
    (hbetween : ((former.scalings current).take n).foldl Deployment.scaled current = between)
    (hlast : LastScaled i j ((former.scalings current).drop n) (latter.scalings between) rest
      between final) :
    (InOrder former latter current (former.answer current) (latter.answer between)
        final.replicas ∨
      InOrder latter former current (latter.answer between) (former.answer current)
        final.replicas) ↔
      ¬ former.Clash latter current i j (i :: (List.replicate n i ++ j :: rest)) := by
  rw [clash_iff hne]
  rcases Nat.lt_or_eq_of_le hn with hlt | rfl
  · have hallowed := allowed_of_scalings hlt
    have hscalings : former.scalings current = counts former := if_pos hallowed
    rw [hscalings] at hlt hbetween hlast
    cases hspec : current.spec with
    | none =>
        refine iff_of_true (.inl (in_order_of_none hspec hbetween hlast)) ?_
        rintro ⟨hsome, -⟩
        cases hsome
    | some spec =>
    have hsome : current.spec.isSome := by rw [hspec]; rfl
    match n with
    | 0 =>
        subst hbetween
        cases hlatter : latter.allowed current.runState with
        | true =>
            have hothers : latter.scalings current = counts latter := if_pos hlatter
            simpa [hallowed, hlatter] using
              in_order_iff_checked hne hsome hallowed hlatter (hothers ▸ hlast)
        | false =>
            refine iff_of_true (.inr (in_order_of_refused hlatter (hscalings ▸ hlast))) ?_
            rintro ⟨-, -, ⟨-, hfalse, -⟩ | ⟨hone, -⟩⟩
            · cases hfalse
            · cases hone
    | 1 =>
        obtain rfl : former = .restart := by
          cases former with
          | restart => rfl
          | start | stop => simp [counts] at hlt
        subst hbetween
        refine iff_of_false (not_in_order_of_interrupted hsome hallowed) ?_
        exact not_not_intro ⟨rfl, hallowed, .inr ⟨rfl, rfl⟩⟩
    | n + 2 =>
        have hlength : (counts former).length ≤ 2 := by
          cases former <;> decide
        omega
  · rw [List.take_length, ← leaves] at hbetween
    rw [List.drop_length] at hlast
    refine iff_of_true (.inl (in_order_of_done hbetween hlast)) ?_
    rintro ⟨-, hallowed, ⟨hnone, -⟩ | ⟨hone, rfl⟩⟩
    · rw [scalings, if_pos hallowed] at hnone
      cases former <;> cases hnone
    · rw [scalings, if_pos hallowed] at hone
      cases hone

end Clash

end Command

section Sequential

variable {name : String} {ref : WorkloadRef} {script last : Script} {current : Deployment}

/-- A command that nothing else disturbs. -/
theorem run_checking (ref : WorkloadRef) (command : Command) (hsteady : script.Steady)
    (hfound : script.store.deployment? name = some current) :
    let ended := (checking name ref command).run world script
    ended.1 = command.answer current ∧ ended.2.Steady ∧
      ended.2.store.deployment? name = some (command.leaves current) := by
  simp only [Operation.run, checking, run_performed (hsteady.performs _),
    Store.perform_get_deployment, hfound, present_some]
  have hnoted : (script.noted (.getDeployment name) script.store).Steady := hsteady.noted
  obtain ⟨hconfined, hresult, hleft⟩ := run_scale_all_steady command.name (command.answer current)
    (command.scalings current) hnoted hfound
  exact ⟨hresult, hconfined.steady hnoted, hleft⟩

/-- Two commands end as if they had been carried out one after the other exactly if they seem to
have been. -/
theorem sequential_iff (ref : WorkloadRef) {former latter : Command} (hsteady : script.Steady)
    (hfound : script.store.deployment? name = some current)
    {one two : Except Error (Option Status)} {count : Int}
    (hcopies : last.copies? name = some count) :
    Sequential name [checking name ref former, checking name ref latter] script [one, two] last ↔
      former.InOrder latter current one two count := by
  obtain ⟨hone, hbetween, hleft⟩ := run_checking ref former hsteady hfound
  obtain ⟨htwo, -, hfinal⟩ := run_checking ref latter hbetween hleft
  rw [copies?] at hcopies
  simp only [Sequential, runAll, Command.InOrder, copies?, hcopies, hone, htwo, hfinal,
    List.cons.injEq, and_true, Option.map_some, Option.some.injEq, and_assoc]

/-- Two commands that take turns, the first turn being `i`, seem to have been carried out one after
the other unless they clash. -/
theorem ends_in_order {operations : List (Operation (Option Status))} {i j : Nat}
    {former latter : Command} {turns : List Nat} {results : List (Except Error (Option Status))}
    {one two : Except Error (Option Status)}
    (hpair : Pair operations i j (checking name ref former) (checking name ref latter))
    (hsteady : script.Steady) (hfound : script.store.deployment? name = some current)
    (h : Ends world (i :: turns) operations script results last)
    (hone : results[i]? = some one) (htwo : results[j]? = some two) :
    ∃ count, last.copies? name = some count ∧
      ((former.InOrder latter current one two count ∨ latter.InOrder former current two one count) ↔
        ¬ former.Clash latter current i j (i :: turns)) := by
  obtain ⟨n, hn, rest, rfl, hfirst, hsecond, final, hfinal, hlast⟩ :=
    ends_commands hpair hsteady hfound h
  obtain rfl := Option.some.inj (hone.symm.trans hfirst)
  obtain rfl := Option.some.inj (htwo.symm.trans hsecond)
  exact ⟨final.replicas, by rw [copies?, hfinal]; rfl,
    Command.in_order_iff hpair.ne hn rfl hlast⟩

end Sequential

/-- A command for a workload without an ID makes no call. -/
theorem Controller.carry_out_nameless (controller : Controller) (nodeId : String)
    {ref : WorkloadRef} (hid : ref.id = "") (command : Command) :
    controller.carryOut nodeId (.command ref command) =
      ⟨command.name, .done (.error (.validation (.emptyId ref.family)))⟩ := by
  simp only [carryOut, Operation.map, Controller.command, checkRef, hid]
  rfl

/-- Two starts, stops or restarts of one workload, in any order of their calls, end as if one had
been carried out after the other, with the same results and as many copies, unless they clash. -/
theorem commands_serializable_iff {settings : Settings} {broker : Broker}
    {controller : Controller} {hasCluster : Bool} (hmode : settings.mode.usesCluster)
    (hcontroller : Controller.ofSettings settings broker hasCluster = .ok controller)
    {nodeId : String} {node : Node} (hnode : broker.directory.node nodeId = .ok (some node))
    {ref : WorkloadRef} (first second : Command) {script last : Script} (hsteady : script.Steady)
    {current : Deployment}
    (hfound : script.store.deployment? (deploymentName ref.id node.serial) = some current)
    {turns : List Nat} {one two : Except Error (Option Status)} :
    let start := controller.carryOut nodeId (.command ref first)
    let other := controller.carryOut nodeId (.command ref second)
    Ends world turns [start, other] script [one, two] last →
      ((Sequential (deploymentName ref.id node.serial) [start, other] script [one, two] last ∨
          Sequential (deploymentName ref.id node.serial) [other, start] script [two, one] last) ↔
        ¬ first.Clash second current 0 1 turns) := by
  intro start other hended
  obtain ⟨route, hbackend⟩ := Controller.backend_of_cluster_mode hmode hcontroller
  have hserial : (Controller.placing settings broker route).serial nodeId = .ok node.serial :=
    Placing.serial_eq hnode
  by_cases hid : ref.id = ""
  · have hnone := controller.carry_out_nameless nodeId hid
    simp only [start, other, hnone] at hended ⊢
    obtain ⟨rfl, hdone, rfl⟩ | ⟨_, _, _, -, hcall⟩ | ⟨_, _, _, -, hcall⟩ := hended.pair_cases
    · simp only [List.map_cons, List.map_nil, List.cons.injEq, Program.done.injEq,
        and_true] at hdone
      obtain ⟨rfl, rfl⟩ := hdone
      exact iff_of_true (.inl ⟨rfl, rfl⟩) (by simp [Command.Clash, Command.Overtakes,
        Command.Interrupted])
    · cases hcall
    · cases hcall
  · have hchecking := Controller.carry_out_checking hbackend hserial hid
    simp only [start, other, hchecking] at hended ⊢
    have hpair := Pair.of_list (checking (deploymentName ref.id node.serial) ref first)
      (checking (deploymentName ref.id node.serial) ref second)
    obtain ⟨-, hdone, -⟩ | ⟨_, _, _, rfl, -⟩ | ⟨_, _, _, rfl, -⟩ := hended.pair_cases
    · simp [checking] at hdone
    · obtain ⟨count, hcopies, hiff⟩ := ends_in_order hpair hsteady hfound hended rfl rfl
      rw [sequential_iff ref hsteady hfound hcopies, sequential_iff ref hsteady hfound hcopies,
        hiff]
    · obtain ⟨count, hcopies, hiff⟩ := ends_in_order hpair.symm hsteady hfound hended rfl rfl
      rw [sequential_iff ref hsteady hfound hcopies, sequential_iff ref hsteady hfound hcopies,
        or_comm, hiff, Command.clash_comm]

namespace Sample

/-- The operation of a command on the application. -/
def commanding (command : Command) : Operation (Option Status) :=
  controller.carryOut node.id (.command ref command)

/-- Operations whose results are known have a last state too. -/
theorem ends_of_results {turns : List Nat} {operations : List (Operation (Option Status))}
    {script : Script} {results : List (Except Error (Option Status))}
    (h : (play world turns operations script).map Prod.fst = some results) :
    ∃ last, Ends world turns operations script results last := by
  obtain ⟨⟨_, last⟩, hplay, rfl⟩ := Option.map_eq_some_iff.1 h
  exact ⟨last, hplay⟩

end Sample

open Sample in
/-- A restart that has checked before a stop, and scales before it too, seems to have come first. -/
theorem restart_before_stop :
    ∃ last, Ends world [0, 1, 0, 0, 1] [commanding .restart, commanding .stop]
        (Sample.script (store 1) []) [.ok (some .running), .ok (some .stopped)] last ∧
      (Sequential (deploymentName ref.id node.serial) [commanding .restart, commanding .stop]
          (Sample.script (store 1) []) [.ok (some .running), .ok (some .stopped)] last ∨
        Sequential (deploymentName ref.id node.serial) [commanding .stop, commanding .restart]
          (Sample.script (store 1) []) [.ok (some .stopped), .ok (some .running)] last) := by
  have hfound : (Sample.script (store 1) []).store.deployment?
      (deploymentName ref.id node.serial) = some (deployment 1) := by
    decide +kernel
  have hkept : ¬ Command.restart.Clash .stop (deployment 1) 0 1 [0, 1, 0, 0, 1] := by
    decide +kernel
  obtain ⟨last, hended⟩ : ∃ last, Ends world [0, 1, 0, 0, 1]
      [commanding .restart, commanding .stop] (Sample.script (store 1) [])
        [.ok (some .running), .ok (some .stopped)] last :=
    ends_of_results (by decide +kernel)
  have hsteady : (Sample.script (store 1) []).Steady := rfl
  exact ⟨last, hended, (commands_serializable_iff rfl of_settings node_known .restart .stop hsteady
    hfound hended).2 hkept⟩

open Sample in
/-- Two starts that both check before either scales both end well, which they never do one after the
other. -/
theorem starts_both_end_well :
    ∃ last, Ends world [0, 1, 0, 1] [commanding .start, commanding .start]
        (Sample.script (store 0) []) [.ok (some .running), .ok (some .running)] last ∧
      ¬ Sequential (deploymentName ref.id node.serial) [commanding .start, commanding .start]
          (Sample.script (store 0) []) [.ok (some .running), .ok (some .running)] last := by
  obtain ⟨last, hended⟩ : ∃ last, Ends world [0, 1, 0, 1]
      [commanding .start, commanding .start] (Sample.script (store 0) [])
        [.ok (some .running), .ok (some .running)] last :=
    ends_of_results (by decide +kernel)
  refine ⟨last, hended, ?_⟩
  rintro ⟨hresults, -⟩
  have hserial : (runAll world [commanding .start, commanding .start]
      (Sample.script (store 0) [])).1 ≠ [.ok (some .running), .ok (some .running)] := by
    decide +kernel
  exact hserial hresults.symm

end EdgeFleet
