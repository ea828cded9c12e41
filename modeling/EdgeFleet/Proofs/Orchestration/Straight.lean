import EdgeFleet.Proofs.Orchestration.Exchange

/-!
# Programs without a choice

Programs that make the calls of a list, whatever these are answered with. `Follows` says what such
a list comes to in a run: the calls are made in order up to the first one that fails or hangs, and
the run ends well exactly if there is none (`Program.Straight.follows`).
-/

namespace EdgeFleet

/-- What becomes of a list of calls that are made one after another. They are made in order, as far
as they are answered; all of them are answered, or the last one made ends the run in its error. -/
structure Follows {α : Type} (operation : String) (calls : List Call) (made : List Exchange)
    (result : Except Error α) : Prop where
  in_order : made.map Exchange.call <+: calls
  complete_iff : (∃ value, result = .ok value) ↔
    made.map Exchange.call = calls ∧ ∀ exchange ∈ made, exchange.error? operation = none
  stopped : ∀ error, result = .error error → ∃ before last, made = before ++ [last] ∧
    (∀ exchange ∈ before, exchange.error? operation = none) ∧
      last.error? operation = some error

namespace Follows

variable {α : Type} {operation : String} {calls : List Call} {made : List Exchange}
  {result : Except Error α} {exchange : Exchange}

theorem nil (value : α) : Follows operation [] [] (.ok value : Except Error α) where
  in_order := List.nil_prefix
  complete_iff := by simp
  stopped := nofun

/-- A call that is answered goes before the others. -/
theorem cons (h : Follows operation calls made result)
    (hanswered : exchange.error? operation = none) :
    Follows operation (exchange.call :: calls) (exchange :: made) result where
  in_order := List.cons_prefix_cons.2 ⟨rfl, h.in_order⟩
  complete_iff := by simp [h.complete_iff, hanswered]
  stopped error herror := by
    obtain ⟨before, last, rfl, hbefore, hlast⟩ := h.stopped error herror
    exact ⟨exchange :: before, last, rfl, List.forall_mem_cons.2 ⟨hanswered, hbefore⟩, hlast⟩

/-- A call that fails or hangs is followed by none. -/
theorem fault {error : Error} (h : exchange.error? operation = some error) (calls : List Call) :
    Follows operation (exchange.call :: calls) [exchange] (.error error : Except Error α) where
  in_order := List.cons_prefix_cons.2 ⟨rfl, List.nil_prefix⟩
  complete_iff := by simp [h]
  stopped := by
    rintro _ ⟨⟩
    exact ⟨[], exchange, rfl, by simp, h⟩

end Follows

namespace Program

variable {α β : Type} {program : Program α} {calls : List Call}

/-- Whether a program makes the calls of a list in order, whatever they are answered with, and then
ends in a value. -/
inductive Straight (value : α) : List Call → Program α → Prop
  | done : Straight value [] (.done (.ok value))
  | proceed {made : Call} {next : made.Answer → Program α} {calls : List Call}
      (h : ∀ answer, Straight value calls (next answer)) :
      Straight value (made :: calls) (.proceed made next)

/-- A call, and then a program that makes the calls of a list. -/
theorem Straight.make {value : β} {made : Call} {next : made.Answer → Program β}
    (h : ∀ answer, Straight value calls (next answer)) :
    Straight value (made :: calls) (make made >>= next) := by
  rw [make_bind]
  exact .proceed h

/-- Programs one after another make their calls one after another. -/
theorem Straight.bind {value : α} {result : β} {next : α → Program β} {rest : List Call}
    (h : Straight value calls program) (hnext : Straight result rest (next value)) :
    Straight result (calls ++ rest) (program >>= next) := by
  induction h with
  | done => exact hnext
  | proceed h ih =>
      rw [proceed_bind]
      exact .proceed ih

/-- A run of such a program keeps to its calls. -/
theorem Straight.follows {value : α} (h : Straight value calls program) {σ : Type}
    (world : World σ) (operation : String) (state : σ) :
    Follows operation calls (program.exchanges world operation state)
      (program.run world operation state).1 := by
  induction h generalizing state with
  | done => exact .nil value
  | @proceed made next calls h ih =>
      rw [exchanges_proceed, run_proceed]
      -- The rest of the run follows the other calls, and there is none after a fault.
      cases world.answer state made with
      | mk outcome after =>
          cases outcome with
          | answered answer =>
              have hanswered : Exchange.error? operation ⟨made, .answered answer⟩ = none := rfl
              exact (ih answer after).cons hanswered
          | failed failure =>
              have hfailed : Exchange.error? operation ⟨made, .failed failure⟩ =
                  some (made.error failure) := rfl
              exact .fault hfailed calls
          | hung =>
              have hhung : Exchange.error? operation ⟨made, .hung⟩ =
                  some (.deadlineExceeded (.operation operation)) := rfl
              exact .fault hhung calls

end Program

end EdgeFleet
