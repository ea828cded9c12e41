import EdgeFleet.Cluster.Condition
import Mathlib.Data.Int.ConditionallyCompleteOrder
import Mathlib.Data.List.Perm.Basic
import Mathlib.Data.Prod.Lex
import Mathlib.Order.ConditionallyCompleteLattice.Finset
import Mathlib.Order.WithBot

/-!
# The condition that decides a status

Conditions are compared by the time at which they were updated (`Condition.time`), and one without
a time is older than all others. `Decides` says of a condition that it holds, that those that hold
before it in a list are older, and that none behind it is newer; read `newest_of_split` first. The
two main results are `status_follows_newest`, which says that the condition that decides gives the
status, and `status_order_iff`, which says when the order of a list does not matter.
-/

namespace EdgeFleet

namespace Cluster.Condition

/-! ### Times -/

/-- When a condition was updated, as seconds and then the fraction of a second. The least element
stands for no time. -/
def time (condition : Condition) : WithBot (Int ×ₗ Nat) :=
  condition.updated.map fun instant => toLex (instant.seconds, instant.nanoseconds)

/-- Conditions are compared by their times. -/
theorem is_newer_iff (a b : Condition) : a.isNewer b = true ↔ b.time < a.time := by
  unfold isNewer time
  cases a.updated with
  | none => exact iff_of_false Bool.false_ne_true not_lt_bot
  | some timeA =>
      cases b.updated with
      | none => exact iff_of_true rfl (WithBot.bot_lt_coe _)
      | some timeB =>
          refine Iff.trans ?_ (WithBot.coe_lt_coe.trans (Prod.Lex.toLex_lt_toLex)).symm
          simp [Time.Instant.isBefore]

/-- Comparing them the other way. -/
theorem is_newer_false_iff (a b : Condition) : a.isNewer b = false ↔ a.time ≤ b.time := by
  rw [← not_lt, ← is_newer_iff, Bool.not_eq_true]

/-! ### The newest condition -/

variable {conditions before after : List Condition} {chosen : Condition}

/-- The newest condition of a list is one of its conditions. -/
theorem mem_of_newest (h : newest? conditions = some chosen) : chosen ∈ conditions := by
  induction conditions generalizing chosen with
  | nil => cases h
  | cons condition rest ih =>
      rw [newest?] at h
      split at h
      · obtain rfl := Option.some.inj h
        exact List.mem_cons_self
      · next other hother =>
          split at h
          · obtain rfl := Option.some.inj h
            exact List.mem_cons_of_mem _ (ih hother)
          · obtain rfl := Option.some.inj h
            exact List.mem_cons_self

/-- A condition is the newest one if all before it are older and none behind it is newer. -/
theorem newest_of_split (hbefore : ∀ condition ∈ before, condition.time < chosen.time)
    (hafter : ∀ condition ∈ after, condition.time ≤ chosen.time) :
    newest? (before ++ chosen :: after) = some chosen := by
  induction before with
  | nil =>
      rw [List.nil_append, newest?]
      split
      · rfl
      · next other hother =>
          rw [(is_newer_false_iff _ _).2 (hafter other (mem_of_newest hother))]
          rfl
  | cons condition rest ih =>
      obtain ⟨hfirst, hrest⟩ := List.forall_mem_cons.1 hbefore
      rw [List.cons_append, newest?, ih hrest]
      exact if_pos ((is_newer_iff _ _).2 hfirst)

/-- Whether one condition comes no later than another in a list that is sorted newest first: the
other is not newer. -/
def newestFirst (a b : Condition) : Bool :=
  !b.isNewer a

/-- Sorted newest first is sorted by time, the latest first. -/
@[simp] theorem newest_first_iff (a b : Condition) : newestFirst a b = true ↔ b.time ≤ a.time := by
  rw [newestFirst, Bool.not_eq_true', is_newer_false_iff]

/-- The newest condition is the first one after a sort that puts the newest first and keeps the
order of those of the same time. -/
theorem newest_eq_sorted (conditions : List Condition) :
    newest? conditions = (conditions.mergeSort newestFirst).head? := by
  have htrans : ∀ a b c, newestFirst a b → newestFirst b c → newestFirst a c := by
    intro a b c hab hbc
    rw [newest_first_iff] at hab hbc ⊢
    exact hbc.trans hab
  have htotal : ∀ a b, (newestFirst a b || newestFirst b a) = true := by
    intro a b
    simpa using le_total b.time a.time
  induction conditions with
  | nil => simp [newest?]
  | cons condition rest ih =>
      obtain ⟨newer, others, hsorted, hrest, hnewer⟩ :=
        List.mergeSort_cons htrans htotal condition rest
      have hpairs := List.pairwise_mergeSort htrans htotal (condition :: rest)
      rw [newest?, ih, hrest, hsorted]
      rw [hsorted] at hpairs
      cases newer with
      | cons first _ =>
          have hfirst : condition.time < first.time := by
            simpa [newestFirst, is_newer_iff] using hnewer first List.mem_cons_self
          exact if_pos ((is_newer_iff _ _).2 hfirst)
      | nil =>
          cases others with
          | nil => rfl
          | cons next _ =>
              have hnext : next.time ≤ condition.time := by
                simpa using (List.pairwise_cons.1 hpairs).1 next List.mem_cons_self
              exact if_neg (by simp [(is_newer_false_iff _ _).2 hnext])

/-! ### The condition that decides -/

/-- What a kind of conditions says of a workload. -/
inductive Means : String → Status → Prop
  | available : Means "Available" .deployed
  | progressing : Means "Progressing" .deploying
  | replicaFailure : Means "ReplicaFailure" .error
  | other {kind : String} (h : kind ∉ ["Available", "Progressing", "ReplicaFailure"]) :
      Means kind .unknown

/-- Conditions mean what their kind says. -/
theorem means_meaning (condition : Condition) : Means condition.kind condition.meaning := by
  unfold meaning
  split
  · next hkind => exact hkind ▸ .available
  · next hkind => exact hkind ▸ .progressing
  · next hkind => exact hkind ▸ .replicaFailure
  · next havailable hprogressing hfailure =>
      refine .other ?_
      simp only [List.mem_cons, List.not_mem_nil, or_false, not_or]
      exact ⟨havailable, hprogressing, hfailure⟩

/-- No condition means that a workload is stopped. -/
theorem meaning_ne_stopped (condition : Condition) : condition.meaning ≠ .stopped := by
  unfold meaning
  split <;> exact nofun

/-- Whether a condition between others decides: it holds, and of those that hold, the ones before it
are older and none behind it is newer. -/
structure Decides (before : List Condition) (chosen : Condition) (after : List Condition) :
    Prop where
  holds : chosen.status = "True"
  before : ∀ condition ∈ before, condition.status = "True" → condition.time < chosen.time
  after : ∀ condition ∈ after, condition.status = "True" → condition.time ≤ chosen.time

/-- If any condition of a list holds, there is one that decides. -/
theorem exists_decides (h : ∃ condition ∈ conditions, condition.status = "True") :
    ∃ before chosen after, conditions = before ++ chosen :: after ∧
      Decides before chosen after := by
  induction conditions with
  | nil => simp at h
  | cons condition rest ih =>
      by_cases hrest : ∃ other ∈ rest, other.status = "True"
      · obtain ⟨before, chosen, after, rfl, hchosen⟩ := ih hrest
        by_cases hfirst : condition.status = "True" → condition.time < chosen.time
        · exact ⟨condition :: before, chosen, after, rfl, hchosen.holds,
            List.forall_mem_cons.2 ⟨hfirst, hchosen.before⟩, hchosen.after⟩
        · -- The first condition is at least as new as the one that decides among the others.
          obtain ⟨hholds, htime⟩ := Classical.not_imp.1 hfirst
          have hchosenTime := not_lt.1 htime
          refine ⟨[], condition, before ++ chosen :: after, rfl, hholds, nofun, ?_⟩
          intro other hother htrue
          rcases List.mem_append.1 hother with hother | hother
          · exact (hchosen.before other hother htrue).le.trans hchosenTime
          · rcases List.mem_cons.1 hother with rfl | hother
            · exact hchosenTime
            · exact (hchosen.after other hother htrue).trans hchosenTime
      · obtain ⟨other, hother, htrue⟩ := h
        have hnone : ∀ other ∈ rest, other.status ≠ "True" := by simpa using hrest
        rcases List.mem_cons.1 hother with rfl | hother
        · exact ⟨[], other, rest, rfl, htrue, nofun,
            fun later hlater hholds => absurd hholds (hnone later hlater)⟩
        · exact absurd htrue (hnone other hother)

/-- Holding is having the status `True`. -/
theorem holds_eq_decide : Condition.holds = fun condition => decide (condition.status = "True") :=
  rfl

/-- The condition that decides is the newest one of those that hold. -/
theorem Decides.newest (h : Decides before chosen after) :
    newest? ((before ++ chosen :: after).filter (·.status = "True")) = some chosen := by
  rw [List.filter_append, List.filter_cons_of_pos (by simp [h.holds])]
  refine newest_of_split (fun condition hmem => ?_) (fun condition hmem => ?_)
  · obtain ⟨hcondition, hholds⟩ := List.mem_filter.1 hmem
    exact h.before condition hcondition (of_decide_eq_true hholds)
  · obtain ⟨hcondition, hholds⟩ := List.mem_filter.1 hmem
    exact h.after condition hcondition (of_decide_eq_true hholds)

/-- The condition that decides gives the status. -/
theorem Decides.status_eq (h : Decides before chosen after) :
    Status.ofConditions (before ++ chosen :: after) = chosen.meaning := by
  rw [Status.ofConditions, holds_eq_decide, h.newest]

/-- If no condition holds, a workload is stopped. -/
theorem status_of_none (h : ∀ condition ∈ conditions, condition.status ≠ "True") :
    Status.ofConditions conditions = .stopped := by
  have hnone : conditions.filter holds = [] :=
    List.filter_eq_nil_iff.2 fun condition hcondition => by
      simpa [holds] using h condition hcondition
  rw [Status.ofConditions, hnone]
  rfl

/-! ### The order of a list -/

/-- Whether a condition is one of the newest of those of a list that hold. -/
structure IsNewest (conditions : List Condition) (condition : Condition) : Prop where
  mem : condition ∈ conditions
  holds : condition.status = "True"
  newest : ∀ other ∈ conditions, other.status = "True" → other.time ≤ condition.time

/-- A condition that decides is one of the newest. -/
theorem Decides.is_newest (h : Decides before chosen after) :
    IsNewest (before ++ chosen :: after) chosen where
  mem := List.mem_append_right _ List.mem_cons_self
  holds := h.holds
  newest other hother htrue := by
    rcases List.mem_append.1 hother with hbefore | hother
    · exact (h.before other hbefore htrue).le
    · rcases List.mem_cons.1 hother with rfl | hafter
      · exact le_rfl
      · exact h.after other hafter htrue

/-- Which conditions are the newest does not depend on the order of a list. -/
theorem IsNewest.perm {others : List Condition} (h : IsNewest conditions chosen)
    (hperm : others.Perm conditions) : IsNewest others chosen where
  mem := hperm.mem_iff.2 h.mem
  holds := h.holds
  newest other hother := h.newest other (hperm.mem_iff.1 hother)

/-- Each of the newest decides in some order of the list. -/
theorem IsNewest.exists_order (h : IsNewest conditions chosen) :
    ∃ others, others.Perm conditions ∧ Status.ofConditions others = chosen.meaning := by
  obtain ⟨before, after, rfl⟩ := List.append_of_mem h.mem
  have hfirst : Decides [] chosen (before ++ after) := by
    refine ⟨h.holds, nofun, fun other hother => h.newest other ?_⟩
    rcases List.mem_append.1 hother with hbefore | hafter
    · exact List.mem_append_left _ hbefore
    · exact List.mem_append_right _ (List.mem_cons_of_mem _ hafter)
  exact ⟨chosen :: (before ++ after), List.perm_middle.symm, hfirst.status_eq⟩

/-- A workload has the status that one of the newest conditions means, if any condition holds. -/
theorem exists_newest (h : ∃ condition ∈ conditions, condition.status = "True") :
    ∃ chosen, IsNewest conditions chosen ∧ Status.ofConditions conditions = chosen.meaning := by
  obtain ⟨before, chosen, after, rfl, hdecides⟩ := exists_decides h
  exact ⟨chosen, hdecides.is_newest, hdecides.status_eq⟩

end Cluster.Condition

open Cluster Condition

/-- A workload is stopped exactly if none of the conditions of its deployment holds. Otherwise one
condition decides: of those that hold, those before it in the list are older and none behind it is
newer, and the status is what its kind says. This is the first condition if those that hold are
sorted newest first, by a sort that keeps the order of conditions of the same time. Conditions that
do not hold, wherever they stand, make no difference. -/
theorem status_follows_newest (conditions : List Condition) :
    (Status.ofConditions conditions = .stopped ↔
        ∀ condition ∈ conditions, condition.status ≠ "True") ∧
      ((∃ condition ∈ conditions, condition.status = "True") →
        ∃ before chosen after, conditions = before ++ chosen :: after ∧
          Decides before chosen after) ∧
      (∀ before chosen after, conditions = before ++ chosen :: after →
        Decides before chosen after →
          Means chosen.kind (Status.ofConditions conditions) ∧
            ((conditions.filter (·.status = "True")).mergeSort newestFirst).head? = some chosen) ∧
      ∀ others : List Condition,
        others.filter (·.status = "True") = conditions.filter (·.status = "True") →
          Status.ofConditions others = Status.ofConditions conditions := by
  refine ⟨⟨fun hstopped => ?_, status_of_none⟩, exists_decides, ?_, ?_⟩
  · by_contra hholds
    have hany : ∃ condition ∈ conditions, condition.status = "True" := by simpa using hholds
    obtain ⟨before, chosen, after, rfl, hdecides⟩ := exists_decides hany
    exact chosen.meaning_ne_stopped (hdecides.status_eq.symm.trans hstopped)
  · rintro before chosen after rfl hdecides
    rw [hdecides.status_eq, ← newest_eq_sorted]
    exact ⟨chosen.means_meaning, hdecides.newest⟩
  · intro others hsame
    simp only [Status.ofConditions, holds_eq_decide, hsame]

namespace Sample

/-- A condition that was updated in a minute, or at no time that is known. -/
def condition (kind status : String) (minute : Option Nat) : Condition :=
  ⟨kind, status, minute.map fun minute => ⟨1704067200 + 60 * minute, 0⟩, none, none, none⟩

end Sample

open Sample in
/-- Of two conditions of one minute the first one decides. One that does not hold is newer than
both, and one that holds has no time. -/
theorem status_follows_newest_tied :
    let before := [condition "Progressing" "True" none, condition "Available" "False" (some 9)]
    let chosen := condition "ReplicaFailure" "True" (some 5)
    let after := [condition "Available" "True" (some 5), condition "Progressing" "True" (some 2)]
    Decides before chosen after ∧
      Means "ReplicaFailure" (Status.ofConditions (before ++ chosen :: after)) := by
  intro before chosen after
  have hdecides : Decides before chosen after := by
    refine ⟨rfl, ?_, ?_⟩
    · simp only [before, List.forall_mem_cons, List.not_mem_nil, false_imp_iff, implies_true,
        and_true]
      exact ⟨fun _ => (is_newer_iff _ _).1 rfl, fun hfalse => absurd hfalse (by decide)⟩
    · simp only [after, List.forall_mem_cons, List.not_mem_nil, false_imp_iff, implies_true,
        and_true]
      exact ⟨fun _ => (is_newer_false_iff _ _).1 rfl, fun _ => (is_newer_false_iff _ _).1 rfl⟩
  obtain ⟨-, -, hstatus, -⟩ := status_follows_newest (before ++ chosen :: after)
  exact ⟨hdecides, (hstatus before chosen after rfl hdecides).1⟩

/-- The order of conditions makes no difference exactly if all of the newest conditions that hold
mean the same, as they do if no two of them have the same time. -/
theorem status_order_iff (conditions : List Condition) :
    (∀ others : List Condition, others.Perm conditions →
        Status.ofConditions others = Status.ofConditions conditions) ↔
      ∀ one other, IsNewest conditions one → IsNewest conditions other →
        one.meaning = other.meaning := by
  constructor
  · intro hsame one other hone hother
    obtain ⟨ones, hones, hfirst⟩ := hone.exists_order
    obtain ⟨others, hothers, hsecond⟩ := hother.exists_order
    rw [← hfirst, ← hsecond, hsame ones hones, hsame others hothers]
  · intro hmeaning others hperm
    by_cases hany : ∃ condition ∈ conditions, condition.status = "True"
    · have hothers : ∃ condition ∈ others, condition.status = "True" := by
        simpa only [hperm.mem_iff] using hany
      obtain ⟨one, hone, hstatus⟩ := exists_newest hany
      obtain ⟨other, hother, hotherStatus⟩ := exists_newest hothers
      rw [hstatus, hotherStatus]
      exact hmeaning other one (hother.perm hperm.symm) hone
    · have hnone : ∀ condition ∈ conditions, condition.status ≠ "True" := by simpa using hany
      rw [status_of_none hnone]
      exact status_of_none fun condition hcondition =>
        hnone condition (hperm.mem_iff.1 hcondition)

open Sample in
/-- Two conditions of one minute that mean different things, in either order. -/
theorem status_depends_on_order :
    ¬ ∀ conditions others : List Condition, others.Perm conditions →
      Status.ofConditions others = Status.ofConditions conditions := by
  intro hsame
  have hstatus := hsame
    [condition "Available" "True" (some 5), condition "Progressing" "True" (some 5)]
    [condition "Progressing" "True" (some 5), condition "Available" "True" (some 5)]
    (List.Perm.swap _ _ _)
  exact absurd hstatus (by decide +kernel)

end EdgeFleet
