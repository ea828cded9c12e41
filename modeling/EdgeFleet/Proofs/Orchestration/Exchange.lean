import EdgeFleet.Proofs.Orchestration.Job

/-!
# What a run says

The calls of a run, one by one, with how each of them ended. `World.recorded` notes them down, and
`Program.exchanges` are the calls that a program makes in a world. `World.cured` is the world in
which nothing fails. The lemmas follow a run one call at a time, so read `Program.exchanges_call`
first, and `Program.exchanges_proceed` for a call whose failure ends the program.
-/

namespace EdgeFleet

/-- A call that was made, and how it ended. -/
structure Exchange where
  call : Call
  outcome : Outcome call

namespace Exchange

/-- Whether a call was answered. -/
def IsAnswered (exchange : Exchange) : Prop :=
  ∃ answer, exchange.outcome = .answered answer

/-- The error that a call ends an operation in, if the call fails or hangs and the operation stops
there. -/
def error? (operation : String) : Exchange → Option Error
  | ⟨_, .answered _⟩ => none
  | ⟨call, .failed failure⟩ => some (call.error failure)
  | ⟨_, .hung⟩ => some (.deadlineExceeded (.operation operation))

variable {call : Call}

theorem not_answered_hung (call : Call) : ¬ IsAnswered ⟨call, .hung⟩ := by
  rintro ⟨answer, h⟩
  cases h

/-- What stands in a list of a single call is this call. -/
theorem eq_of_single {first exchange : Exchange} {before after : List Exchange}
    (h : [first] = before ++ exchange :: after) :
    before = [] ∧ exchange = first ∧ after = [] := by
  simpa [eq_comm, List.append_eq_cons_iff] using h

end Exchange

namespace World

variable {σ : Type}

/-- The world with every call noted down together with how it ended, first one first. -/
def recorded (world : World σ) : World (σ × List Exchange) where
  answer := fun (state, exchanges) call =>
    let (outcome, after) := world.answer state call
    (outcome, after, exchanges ++ [⟨call, outcome⟩])

/-- A world that answers where another one fails or hangs. How it does so is given, together with
the state that this leads to. -/
def cured (world : World σ) (cure : σ → (call : Call) → call.Answer × σ) : World σ where
  answer state call :=
    match world.answer state call with
    | (.answered answer, after) => (.answered answer, after)
    | _ => (.answered (cure state call).1, (cure state call).2)

variable (world : World σ) (state : σ) (call : Call)

/-- What a world with every call noted down answers, and what it has noted then. -/
theorem recorded_answer (exchanges : List Exchange) :
    world.recorded.answer (state, exchanges) call =
      ((world.answer state call).1, (world.answer state call).2,
        exchanges ++ [⟨call, (world.answer state call).1⟩]) := rfl

variable {world state call}

/-- An answer stays. -/
theorem cured_answered (cure : σ → (call : Call) → call.Answer × σ) {answer : call.Answer}
    {after : σ} (h : world.answer state call = (.answered answer, after)) :
    (world.cured cure).answer state call = (.answered answer, after) := by
  simp only [cured, h]

variable (world state call)

/-- Where nothing fails, every call has an answer. -/
theorem cured_answer (cure : σ → (call : Call) → call.Answer × σ) :
    ∃ answer after, (world.cured cure).answer state call = (.answered answer, after) := by
  cases hanswer : world.answer state call with
  | mk outcome after =>
      cases outcome with
      | answered answer => exact ⟨answer, after, cured_answered cure hanswer⟩
      | failed failure => exact ⟨_, (cure state call).2, by simp only [cured, hanswer]; rfl⟩
      | hung => exact ⟨_, (cure state call).2, by simp only [cured, hanswer]; rfl⟩

end World

namespace Program

variable {σ α : Type}

/-- The calls of a run, in order. -/
def exchanges (world : World σ) (operation : String) (program : Program α) (state : σ) :
    List Exchange :=
  (program.run world.recorded operation (state, [])).2.2

section Recording

variable (world : World σ) (operation : String)

/-- Noting calls down changes neither the result nor the state, and adds to what was noted
before. -/
theorem run_recorded (program : Program α) (state : σ) (noted : List Exchange) :
    program.run world.recorded operation (state, noted) =
      ((program.run world operation state).1, (program.run world operation state).2,
        noted ++ program.exchanges world operation state) := by
  induction program generalizing state noted with
  | done result => simp [exchanges]
  | call made next ih =>
      simp only [exchanges, run, World.recorded_answer]
      cases hanswer : world.answer state made with
      | mk outcome after =>
          -- The rest of the run is noted down behind this call, in both records.
          cases outcome with
          | hung => rfl
          | answered answer => simp only [ih _ after, List.nil_append, List.append_assoc]
          | failed failure => simp only [ih _ after, List.nil_append, List.append_assoc]

@[simp] theorem exchanges_done (result : Except Error α) (state : σ) :
    (Program.done result).exchanges world operation state = [] := rfl

/-- A run makes its next call, and goes on unless that hangs. -/
theorem exchanges_call (made : Call) (next : Except made.Failure made.Answer → Program α)
    (state : σ) :
    (Program.call made next).exchanges world operation state =
      ⟨made, (world.answer state made).1⟩ ::
        match world.answer state made with
        | (.answered answer, after) => (next (.ok answer)).exchanges world operation after
        | (.failed failure, after) => (next (.error failure)).exchanges world operation after
        | (.hung, _) => [] := by
  simp only [exchanges, run, World.recorded_answer, List.nil_append]
  cases hanswer : world.answer state made with
  | mk outcome after =>
      cases outcome with
      | hung => rfl
      | answered answer => simp only [run_recorded, List.nil_append, List.singleton_append]
      | failed failure => simp only [run_recorded, List.nil_append, List.singleton_append]

section Answered

variable {world : World σ} {operation : String} {made : Call} {state : σ}

/-- A call that is answered has an answer and leaves a state. -/
theorem answer_of_answered (h : Exchange.IsAnswered ⟨made, (world.answer state made).1⟩) :
    ∃ answer after, world.answer state made = (.answered answer, after) := by
  obtain ⟨answer, houtcome⟩ := h
  exact ⟨answer, _, Prod.ext houtcome rfl⟩

variable {next : Except made.Failure made.Answer → Program α} {answer : made.Answer} {after : σ}
  (hanswer : world.answer state made = (.answered answer, after))
include hanswer

/-- With the answer, a run goes on. -/
theorem run_answered : (Program.call made next).run world operation state =
    (next (.ok answer)).run world operation after := by
  simp only [run, hanswer]

/-- So do the calls of the run. -/
theorem exchanges_answered : (Program.call made next).exchanges world operation state =
    ⟨made, .answered answer⟩ :: (next (.ok answer)).exchanges world operation after := by
  simp only [exchanges_call, hanswer]

end Answered

/-- Where a program goes on only with the answer to a call, a run goes on if the call is
answered. -/
theorem exchanges_proceed (made : Call) (next : made.Answer → Program α) (state : σ) :
    (proceed made next).exchanges world operation state =
      ⟨made, (world.answer state made).1⟩ ::
        match world.answer state made with
        | (.answered answer, after) => (next answer).exchanges world operation after
        | _ => [] := by
  rw [proceed, exchanges_call]
  cases world.answer state made with
  | mk outcome after => cases outcome <;> rfl

/-- A program that ends with its first call makes this call, whatever the answer. -/
theorem exchanges_last (made : Call) (result : made.Answer → Except Error α) (state : σ) :
    (proceed made fun answer => .done (result answer)).exchanges world operation state =
      [⟨made, (world.answer state made).1⟩] := by
  rw [exchanges_proceed]
  cases world.answer state made with
  | mk outcome after => cases outcome <;> rfl

end Recording

/-- The calls that a program makes in a run are among those that it may make. -/
theorem Only.exchanges {allowed : Call → Prop} {program : Program α} (h : program.Only allowed)
    (world : World σ) (operation : String) (state : σ) :
    ∀ exchange ∈ program.exchanges world operation state, allowed exchange.call := by
  induction program generalizing state with
  | done result => simp
  | call made next ih =>
      rw [exchanges_call]
      cases world.answer state made with
      | mk outcome after =>
          cases outcome with
          | answered answer => exact List.forall_mem_cons.2 ⟨h.1, ih _ (h.2 _) after⟩
          | failed failure => exact List.forall_mem_cons.2 ⟨h.1, ih _ (h.2 _) after⟩
          | hung => simpa using h.1

variable {world : World σ} {operation : String} (cure : σ → (call : Call) → call.Answer × σ)

/-- Where nothing fails, every call is answered. -/
theorem answered_of_cured (program : Program α) (state : σ) :
    ∀ exchange ∈ program.exchanges (world.cured cure) operation state,
      exchange.IsAnswered := by
  induction program generalizing state with
  | done result => simp
  | call made next ih =>
      obtain ⟨answer, after, hanswer⟩ := world.cured_answer state made cure
      rw [exchanges_answered hanswer]
      exact List.forall_mem_cons.2 ⟨⟨answer, rfl⟩, ih _ _⟩

/-- A run in which every call is answered is the run where nothing fails. -/
theorem run_cured {program : Program α} {state : σ}
    (h : ∀ exchange ∈ program.exchanges world operation state,
      exchange.IsAnswered) :
    program.run (world.cured cure) operation state = program.run world operation state ∧
      program.exchanges (world.cured cure) operation state =
        program.exchanges world operation state := by
  induction program generalizing state with
  | done result => exact ⟨rfl, rfl⟩
  | call made next ih =>
      have hmade : Exchange.IsAnswered ⟨made, (world.answer state made).1⟩ := by
        rw [exchanges_call] at h
        exact (List.forall_mem_cons.1 h).1
      obtain ⟨answer, after, hanswer⟩ := answer_of_answered hmade
      have hcured := World.cured_answered cure hanswer
      rw [exchanges_answered hanswer] at h
      obtain ⟨hrun, hexchanges⟩ := ih _ (List.forall_mem_cons.1 h).2
      rw [run_answered hcured, run_answered hanswer, exchanges_answered hcured,
        exchanges_answered hanswer]
      exact ⟨hrun, congrArg (List.cons _) hexchanges⟩

end Program

/-- The calls of a run in a scripted world are the ones that the script notes down. -/
theorem Script.log_run {α : Type} (operation : String) (program : Program α) (script : Script) :
    (program.run world operation script).2.log =
      script.log ++ (program.exchanges world operation script).map Exchange.call := by
  have hnoted (script : Script) (call : Call) :
      (world.answer script call).2.log = script.log ++ [call] := by
    cases call <;> simp [world, answer, log]
  induction program generalizing script with
  | done result => simp
  | call made next ih =>
      have hmade := hnoted script made
      rw [Program.exchanges_call]
      simp only [Program.run]
      cases hanswer : world.answer script made with
      | mk outcome after =>
          rw [hanswer] at hmade
          cases outcome with
          | answered answer =>
              simp only [ih _ after, hmade, List.map_cons, List.append_assoc,
                List.singleton_append]
          | failed failure =>
              simp only [ih _ after, hmade, List.map_cons, List.append_assoc,
                List.singleton_append]
          | hung => exact hmade

end EdgeFleet
