import EdgeFleet.Orchestration.Controller

/-!
# Laws of programs

How programs go on with one another, and what running them comes to. Read `run_bind` first: a
program that goes on with a second one runs the second from where the first ended, and not at all
if the first failed. `advance` is a single call of a run, so that several programs can take turns,
and `run_call` says that a run is nothing but its calls one after another.
-/

namespace EdgeFleet

namespace Program

variable {σ α β : Type}

@[simp] theorem pure_eq (value : α) : (pure value : Program α) = .done (.ok value) := rfl

@[simp] theorem fail_eq (error : Error) : (fail error : Program α) = .done (.error error) := rfl

@[simp] theorem monad_lift_eq (result : Except Error α) :
    (liftM result : Program α) = .done result := rfl

@[simp] theorem check_ok : Error.ofCheck (.ok ()) = .ok () := rfl

@[simp] theorem check_error (violation : Violation) :
    (Error.ofCheck (.error violation) : Except Error α) =
      .error (.validation (.violation violation)) := rfl

@[simp] theorem ask_eq (request : Cluster.Request) :
    ask request = .proceed (.cluster request) fun answer => .done (.ok answer) := rfl

@[simp] theorem done_ok_bind (value : α) (next : α → Program β) :
    (Program.done (.ok value) >>= next) = next value := rfl

@[simp] theorem done_error_bind (error : Error) (next : α → Program β) :
    (Program.done (.error error) >>= next) = .done (.error error) := rfl

/-- A program that makes a call makes it if more is to follow. -/
theorem call_bind (made : Call) (rest : Except made.Failure made.Answer → Program α)
    (next : α → Program β) :
    (Program.call made rest >>= next) = .call made fun result => rest result >>= next := rfl

/-- A program that goes on only with the answer to a call does so if more is to follow. -/
@[simp] theorem proceed_bind (made : Call) (rest : made.Answer → Program α) (next : α → Program β) :
    (proceed made rest >>= next) = proceed made fun answer => rest answer >>= next := by
  refine congrArg (Program.call made) (funext fun result => ?_)
  cases result <;> rfl

/-- Going on after a request goes on with the answer to it. -/
theorem ask_bind (request : Cluster.Request) (next : request.Answer → Program β) :
    (ask request >>= next) = .proceed (.cluster request) next :=
  proceed_bind (.cluster request) (fun answer => .done (.ok answer)) next

/-- Going on after a call goes on with the answer to it. -/
theorem make_bind (made : Call) (next : made.Answer → Program β) :
    (make made >>= next) = .proceed made next :=
  proceed_bind made (fun answer => .done (.ok answer)) next

/-- Going on twice is going on with what goes on. -/
theorem bind_assoc {γ : Type} (program : Program α) (next : α → Program β) (last : β → Program γ) :
    (program >>= next >>= last) = program >>= fun value => next value >>= last := by
  induction program with
  | done result => cases result <;> rfl
  | call made rest ih =>
      simp only [call_bind]
      exact congrArg (Program.call made) (funext ih)

/-- A program with a call to make is not done. -/
@[simp] theorem proceed_ne_done (made : Call) (next : made.Answer → Program α)
    (result : Except Error α) : proceed made next ≠ .done result :=
  fun h => nomatch h

@[simp] theorem map_eq (f : α → β) (program : Program α) :
    f <$> program = program >>= fun value => .done (.ok (f value)) := rfl

@[simp] theorem make_eq (made : Call) :
    make made = .proceed made fun answer => .done (.ok answer) := rfl

/-- Whether every call that a program may make is allowed, however the calls before it end. -/
def Only (allowed : Call → Prop) : Program α → Prop
  | .done _ => True
  | .call made next => allowed made ∧ ∀ result, (next result).Only allowed

section Only

variable {allowed : Call → Prop}

@[simp] theorem only_done (result : Except Error α) : (Program.done result).Only allowed := trivial

@[simp] theorem only_proceed (made : Call) (next : made.Answer → Program α) :
    (proceed made next).Only allowed ↔ allowed made ∧ ∀ answer, (next answer).Only allowed := by
  refine and_congr_right fun _ => ⟨fun h answer => h (.ok answer), fun h result => ?_⟩
  cases result with
  | ok answer => exact h answer
  | error failure => trivial

/-- A single call that is allowed. -/
theorem only_make {made : Call} (h : allowed made) : (make made).Only allowed :=
  (only_proceed made _).2 ⟨h, fun _ => trivial⟩

/-- A program that goes on with another makes only allowed calls if both do. -/
theorem Only.bind {program : Program α} {next : α → Program β} (h : program.Only allowed)
    (hnext : ∀ value, (next value).Only allowed) : (program >>= next).Only allowed := by
  induction program with
  | done result =>
      cases result with
      | ok value => exact hnext value
      | error error => trivial
  | call made rest ih => exact ⟨h.1, fun result => ih result (h.2 result)⟩

/-- A program that goes on only from what a calculation comes to may make use of that. -/
theorem Only.lift {result : Except Error α} {next : α → Program β}
    (h : ∀ value, result = .ok value → (next value).Only allowed) :
    ((liftM result : Program α) >>= next).Only allowed := by
  cases result with
  | ok value => exact h value rfl
  | error error => trivial

/-- What is allowed to a program may be widened. -/
theorem Only.mono {wider : Call → Prop} (hwider : ∀ call, allowed call → wider call)
    {program : Program α} (h : program.Only allowed) : program.Only wider := by
  induction program with
  | done result => trivial
  | call made next ih => exact ⟨hwider made h.1, fun result => ih result (h.2 result)⟩

/-- Calls that are allowed in two ways are allowed in both. -/
theorem Only.and {other : Call → Prop} {program : Program α} (h : program.Only allowed)
    (hother : program.Only other) : program.Only fun call => allowed call ∧ other call := by
  induction program with
  | done result => trivial
  | call made next ih =>
      exact ⟨⟨h.1, hother.1⟩, fun result => ih result (h.2 result) (hother.2 result)⟩

/-- If all calls are allowed, a program makes only allowed calls. -/
theorem only_any (program : Program α) : program.Only fun _ => True := by
  induction program with
  | done result => trivial
  | call made next ih => exact ⟨trivial, ih⟩

end Only

variable (world : World σ) (operation : String)

@[simp] theorem run_done (result : Except Error α) (state : σ) :
    (Program.done result).run world operation state = (result, state) := rfl

/-- What a program becomes by its next call, and the state after the call. A call that hangs ends
the program. -/
def advance (made : Call) (next : Except made.Failure made.Answer → Program α) (state : σ) :
    Program α × σ :=
  match world.answer state made with
  | (.answered answer, after) => (next (.ok answer), after)
  | (.failed failure, after) => (next (.error failure), after)
  | (.hung, after) => (.done (.error (.deadlineExceeded (.operation operation))), after)

/-- A run makes one call and then runs what the program has become. -/
theorem run_call (made : Call) (next : Except made.Failure made.Answer → Program α) (state : σ) :
    (Program.call made next).run world operation state =
      (advance world operation made next state).1.run world operation
        (advance world operation made next state).2 := by
  simp only [run, advance]
  cases world.answer state made with
  | mk outcome after => cases outcome <;> rfl

/-- A program that goes on only with the answer to a call ends where the call fails or hangs. -/
theorem run_proceed (made : Call) (next : made.Answer → Program α) (state : σ) :
    (proceed made next).run world operation state =
      match world.answer state made with
      | (.answered answer, after) => (next answer).run world operation after
      | (.failed failure, after) => (.error (made.error failure), after)
      | (.hung, after) => (.error (.deadlineExceeded (.operation operation)), after) := by
  simp only [proceed, run]
  cases world.answer state made with
  | mk outcome after => cases outcome <;> rfl

/-- Running a program that goes on with another runs the first and then the second, which is
skipped if the first failed. -/
theorem run_bind (program : Program α) (next : α → Program β) (state : σ) :
    (program >>= next).run world operation state =
      match program.run world operation state with
      | (.ok value, after) => (next value).run world operation after
      | (.error error, after) => (.error error, after) := by
  induction program generalizing state with
  | done result => cases result <;> rfl
  | call made rest ih =>
      rw [call_bind]
      simp only [run]
      cases world.answer state made with
      | mk outcome after =>
          cases outcome with
          | answered answer => exact ih (.ok answer) after
          | failed failure => exact ih (.error failure) after
          | hung => rfl

/-- What a call keeps to be true, a run of allowed calls does. -/
theorem run_keeps {allowed : Call → Prop} {holds : σ → Prop}
    (hkeeps : ∀ state call, allowed call → holds state → holds (world.answer state call).2)
    {program : Program α} (honly : program.Only allowed) {state : σ} (h : holds state) :
    holds (program.run world operation state).2 := by
  induction program generalizing state with
  | done result => exact h
  | call made next ih =>
      have hafter := hkeeps state made honly.1 h
      simp only [run]
      cases hanswer : world.answer state made with
      | mk outcome after =>
          rw [hanswer] at hafter
          cases outcome with
          | answered answer => exact ih _ (honly.2 _) hafter
          | failed failure => exact ih _ (honly.2 _) hafter
          | hung => exact hafter

end Program

end EdgeFleet
