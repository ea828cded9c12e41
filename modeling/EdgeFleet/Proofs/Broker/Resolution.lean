import EdgeFleet.Proofs.Broker.Route

/-!
# One host for a node

A broker is asked for the host of a node, to make it known, or to connect to it. The directory must
know exactly one address of the node for that; any other answer ends a step before anything is
called. `Taken.Settled` says what a step comes to, and `routing_never_guessed` that every step of a
sequence comes to that, whatever was asked for before it.
-/

namespace EdgeFleet

namespace Program

variable {σ τ α : Type} {world : World σ} {elsewhere : World τ} {operation : String}

/-- What a run comes to follows from the calls that it made and from how they ended. -/
theorem run_of_exchanges {program : Program α} {state : σ} {start : τ}
    (h : program.exchanges world operation state = program.exchanges elsewhere operation start) :
    (program.run world operation state).1 = (program.run elsewhere operation start).1 := by
  induction program generalizing state start with
  | done result => rfl
  | call made next ih =>
      rw [exchanges_call, exchanges_call, List.cons.injEq, Exchange.mk.injEq] at h
      obtain ⟨⟨-, houtcome⟩, hrest⟩ := h
      simp only [run]
      generalize world.answer state made = here at houtcome hrest ⊢
      generalize elsewhere.answer start made = there at houtcome hrest ⊢
      obtain ⟨outcome, after⟩ := here
      obtain ⟨other, finish⟩ := there
      obtain rfl := eq_of_heq houtcome
      cases outcome with
      | answered answer => exact ih _ hrest
      | failed failure => exact ih _ hrest
      | hung => rfl

end Program

namespace Broker

/-! ### The rule -/

/-- The host of a node by what the directory answers: of addresses there must be exactly one. -/
inductive Resolves (nodeId : String) : Except Error (List String) → Except Error String → Prop
  | one (target : String) : Resolves nodeId (.ok [target]) (.ok (targetHost target))
  | missing : Resolves nodeId (.ok []) (.error (.notFound (.target nodeId)))
  | several {targets : List String} (hseveral : 2 ≤ targets.length) :
      Resolves nodeId (.ok targets)
        (.error (.connection s!"resolve node {nodeId}" (.targets targets.length)))
  | unanswered (error : Error) : Resolves nodeId (.error error) (.error error)

theorem resolves (broker : Broker) (nodeId : String) :
    Resolves nodeId (broker.directory.targets nodeId) (broker.resolve nodeId) := by
  unfold resolve
  match broker.directory.targets nodeId with
  | .error error => exact .unanswered error
  | .ok [] => exact .missing
  | .ok [target] => exact .one target
  | .ok (first :: second :: more) => exact .several (by simp)

/-! ### Steps -/

/-- What a broker is asked for. -/
inductive Enquiry where
  /-- The host of a node. -/
  | resolve
  /-- That the host is made known for later connections. -/
  | register
  | connect (surface : Agent.Surface)
  deriving DecidableEq

/-- An enquiry about a node, and the directory as it is then. -/
structure Step where
  nodeId : String
  enquiry : Enquiry
  directory : Directory

namespace Step

/-- What the directory knows of the node. -/
def answer (step : Step) : Except Error (List String) :=
  step.directory.targets step.nodeId

/-- The broker that a step is made with. -/
def present (step : Step) (broker : Broker) : Broker :=
  { broker with directory := step.directory }

/-- What is done in a step; the host is the result if it was asked for. -/
def program (step : Step) (broker : Broker) : Program (Option String) :=
  match step.enquiry with
  | .resolve => do return some (← (step.present broker).resolve step.nodeId)
  | .register => do
    (step.present broker).register step.nodeId
    return none
  | .connect surface => do
    (step.present broker).connect step.nodeId surface
    return none

end Step

/-- A step that was made: its calls, with how they ended, and its result. -/
structure Taken where
  step : Step
  exchanges : List Exchange
  result : Except Error (Option String)

/-- Makes steps one after another. -/
def walk {σ : Type} (broker : Broker) (world : World σ) (operation : String) :
    List Step → σ → List Taken
  | [], _ => []
  | step :: steps, state =>
    let (result, after) := (step.program broker).run world operation state
    ⟨step, (step.program broker).exchanges world operation state, result⟩ ::
      broker.walk world operation steps after

/-- Whether a call is the one that an enquiry is for, at a host. -/
inductive Serves (broker : Broker) (nodeId host : String) : Enquiry → Call → Prop
  | register : Serves broker nodeId host .register (.register host)
  | dial {surface : Agent.Surface} {endpoint : Uri.Endpoint} {tls : Option Tls.Connector}
      (hendpoint : broker.endpoint? host surface = some endpoint)
      (hencrypts : broker.Encrypts nodeId tls) :
      Serves broker nodeId host (.connect surface) (.dial nodeId ⟨surface, endpoint, tls⟩)

/-- What a step comes to by what the directory answers. Nothing is called unless the directory knows
exactly one address, and then what was asked for is called, if there is a way to do so. -/
structure Taken.Settled (broker : Broker) (taken : Taken) : Prop where
  once : taken.exchanges.length ≤ 1
  /-- Making a host known and connecting to it do not succeed without a call. -/
  called : taken.result = .ok none → taken.exchanges ≠ []
  /-- Nothing is called unless the directory knows exactly one address. -/
  only_one : taken.exchanges ≠ [] → ∃ target, taken.step.answer = .ok [target]
  /-- An error of the directory is the result. -/
  unanswered : ∀ error, taken.step.answer = .error error → taken.result = .error error
  missing : taken.step.answer = .ok [] →
    taken.result = .error (.notFound (.target taken.step.nodeId))
  /-- The count of several addresses is told. -/
  several : ∀ targets, taken.step.answer = .ok targets → 2 ≤ targets.length →
    ∃ context cause, taken.result = .error (.connection context cause) ∧
      context = "resolve node " ++ taken.step.nodeId ∧
      cause.message = toString targets.length ++ " registered gRPC targets, expected exactly one"
  /-- The host is the one address without its port, and all that is called is called at it. -/
  one : ∀ target, taken.step.answer = .ok [target] →
    (taken.step.enquiry = .resolve → taken.result = .ok (some (targetHost target))) ∧
      ∀ exchange ∈ taken.exchanges,
        Serves broker taken.step.nodeId (targetHost target) taken.step.enquiry exchange.call
  /-- Whatever serves an enquiry about a node with one address is called. -/
  served : ∀ target call, taken.step.answer = .ok [target] →
    Serves broker taken.step.nodeId (targetHost target) taken.step.enquiry call →
      taken.exchanges.map Exchange.call = [call]

namespace Taken.Settled

variable {broker : Broker} {taken : Taken}

/-- A step without a host calls nothing. -/
theorem of_refused {error : Error}
    (h : Resolves taken.step.nodeId taken.step.answer (.error error))
    (hexchanges : taken.exchanges = []) (hresult : taken.result = .error error) :
    taken.Settled broker where
  once := by simp [hexchanges]
  called hsuccess := by simp [hresult] at hsuccess
  only_one hmade := absurd hexchanges hmade
  unanswered other hanswer := by
    rw [hanswer] at h
    cases h
    exact hresult
  missing hanswer := by
    rw [hanswer] at h
    cases h with
    | missing => exact hresult
    | several hseveral => simp at hseveral
  several targets hanswer hseveral := by
    rw [hanswer] at h
    cases h with
    | missing => simp at hseveral
    | several => exact ⟨_, _, hresult, rfl, rfl⟩
  one target hanswer := by
    rw [hanswer] at h
    cases h with
    | several hseveral => simp at hseveral
  served target call hanswer := by
    rw [hanswer] at h
    cases h with
    | several hseveral => simp at hseveral

/-- A step with a host calls nothing else than what it is for. -/
theorem of_served {host : String} (h : Resolves taken.step.nodeId taken.step.answer (.ok host))
    (honce : taken.exchanges.length ≤ 1) (hcalled : taken.result = .ok none → taken.exchanges ≠ [])
    (hresult : taken.step.enquiry = .resolve → taken.result = .ok (some host))
    (hserves : ∀ exchange ∈ taken.exchanges,
      Serves broker taken.step.nodeId host taken.step.enquiry exchange.call)
    (hserved : ∀ call, Serves broker taken.step.nodeId host taken.step.enquiry call →
      taken.exchanges.map Exchange.call = [call]) :
    taken.Settled broker := by
  obtain ⟨target, hanswer, rfl⟩ :
      ∃ target, taken.step.answer = .ok [target] ∧ targetHost target = host := by
    generalize taken.step.answer = answer at h
    cases h with
    | one target => exact ⟨target, rfl, rfl⟩
  exact {
    once := honce
    called := hcalled
    only_one := fun _ => ⟨target, hanswer⟩
    unanswered := fun error herror => by simp [hanswer] at herror
    missing := fun hnone => by simp [hanswer] at hnone
    several := fun targets htargets hseveral => by
      rw [hanswer, Except.ok.injEq] at htargets
      subst htargets
      simp at hseveral
    one := fun found hfound => by
      rw [hanswer, Except.ok.injEq, List.cons.injEq] at hfound
      rw [← hfound.1]
      exact ⟨hresult, hserves⟩
    served := fun found call hfound => by
      rw [hanswer, Except.ok.injEq, List.cons.injEq] at hfound
      rw [← hfound.1]
      exact hserved call }

end Taken.Settled

section

variable {broker : Broker} {step : Step}

/-- Without a host a step ends in the error. -/
theorem Step.program_unresolved {error : Error}
    (h : (step.present broker).resolve step.nodeId = .error error) :
    step.program broker = .done (.error error) := by
  cases henquiry : step.enquiry with
  | resolve => simp [program, henquiry, h]
  | register => simp [program, henquiry, Broker.register, h]
  | connect surface =>
      simp [program, henquiry, connect_unrouted (route_unresolved h surface)]

/-- The directory of a step does not matter for how connections are encrypted. -/
theorem Step.encrypts_present {nodeId : String} {tls : Option Tls.Connector} :
    (step.present broker).Encrypts nodeId tls ↔ broker.Encrypts nodeId tls := by
  constructor
  · rintro (⟨htls⟩ | ⟨htls, haccepts, hserver⟩)
    · exact .plain htls
    · exact .pinned htls haccepts hserver
  · rintro (⟨htls⟩ | ⟨htls, haccepts, hserver⟩)
    · exact .plain htls
    · exact .pinned htls haccepts hserver

/-- With a host a step makes the call that it is for. -/
theorem Step.program_served {host : String} {call : Call}
    (h : (step.present broker).resolve step.nodeId = .ok host)
    (hserves : Serves broker step.nodeId host step.enquiry call) :
    step.program broker = .proceed call fun _ => .done (.ok none) := by
  generalize henquiry : step.enquiry = enquiry at hserves
  cases hserves with
  | register => simp [program, henquiry, Broker.register, h]
  | @dial surface endpoint tls hendpoint hencrypts =>
      have hroute : (step.present broker).route step.nodeId surface =
          .ok ⟨surface, endpoint, tls⟩ :=
        route_iff.2 ⟨host, endpoint, tls, h, hendpoint, encrypts_present.2 hencrypts, rfl⟩
      simp [program, henquiry, connect_routed hroute]

/-- With a host a step makes at most the call that it is for. -/
theorem Step.program_resolved {host : String}
    (h : (step.present broker).resolve step.nodeId = .ok host) :
    (∃ result, step.program broker = .done result ∧ result ≠ .ok none ∧
        (step.enquiry = .resolve → result = .ok (some host))) ∨
      ∃ call, Serves broker step.nodeId host step.enquiry call ∧
        step.program broker = .proceed call fun _ => .done (.ok none) := by
  cases henquiry : step.enquiry with
  | resolve =>
      exact .inl ⟨.ok (some host), by simp [program, henquiry, h], by simp, fun _ => rfl⟩
  | register =>
      exact .inr ⟨.register host, .register, by simp [program, henquiry, Broker.register, h]⟩
  | connect surface =>
      cases hroute : (step.present broker).route step.nodeId surface with
      | error error =>
          have hprogram : step.program broker = .done (.error error) := by
            simp [program, henquiry, connect_unrouted hroute]
          exact .inl ⟨.error error, hprogram, by simp, by simp⟩
      | ok route =>
          have hprogram : step.program broker =
              .proceed (.dial step.nodeId route) fun _ => .done (.ok none) := by
            simp [program, henquiry, connect_routed hroute]
          obtain ⟨found, endpoint, tls, hfound, hendpoint, hencrypts, rfl⟩ := route_iff.1 hroute
          obtain rfl : host = found := Except.ok.inj (h.symm.trans hfound)
          exact .inr ⟨_, .dial hendpoint (encrypts_present.1 hencrypts), hprogram⟩

/-- A step ends at once or with its only call. -/
theorem Step.program_cases (step : Step) (broker : Broker) :
    (∃ result, step.program broker = .done result) ∨
      ∃ call, step.program broker = .proceed call fun _ => .done (.ok none) := by
  cases h : (step.present broker).resolve step.nodeId with
  | error error => exact .inl ⟨_, program_unresolved h⟩
  | ok host =>
      obtain ⟨result, hprogram, -, -⟩ | ⟨call, -, hprogram⟩ := program_resolved h
      · exact .inl ⟨result, hprogram⟩
      · exact .inr ⟨call, hprogram⟩

variable {σ τ : Type} (world : World σ) (operation : String) (state : σ)

/-- The calls of a step are the same wherever it is made. -/
theorem Step.calls_eq (elsewhere : World τ) (start : τ) :
    ((step.program broker).exchanges world operation state).map Exchange.call =
      ((step.program broker).exchanges elsewhere operation start).map Exchange.call := by
  obtain ⟨result, h⟩ | ⟨call, h⟩ := step.program_cases broker
  · rw [h]
    rfl
  · rw [h, Program.exchanges_last, Program.exchanges_last]
    rfl

/-- A step comes to what the directory answers. -/
theorem Step.settled {taken : Taken} (hstep : taken.step = step)
    (hexchanges : taken.exchanges = (step.program broker).exchanges world operation state)
    (hresult : taken.result = ((step.program broker).run world operation state).1) :
    taken.Settled broker := by
  subst hstep
  have hrule := (taken.step.present broker).resolves taken.step.nodeId
  cases hresolve : (taken.step.present broker).resolve taken.step.nodeId with
  | error error =>
      rw [hresolve] at hrule
      rw [program_unresolved hresolve] at hexchanges hresult
      exact .of_refused hrule hexchanges hresult
  | ok host =>
      rw [hresolve] at hrule
      have hserved : ∀ call, Serves broker taken.step.nodeId host taken.step.enquiry call →
          taken.exchanges.map Exchange.call = [call] := by
        intro call hserves
        rw [hexchanges, program_served hresolve hserves, Program.exchanges_last]
        rfl
      obtain ⟨result, hprogram, hsome, hhost⟩ | ⟨call, hserves, hprogram⟩ :=
        program_resolved hresolve
      · rw [hprogram, Program.exchanges_done] at hexchanges
        rw [hprogram, Program.run_done] at hresult
        exact .of_served hrule (by simp [hexchanges])
          (fun hnone => absurd (hresult.symm.trans hnone) hsome) (hresult ▸ hhost)
          (by simp [hexchanges]) hserved
      · rw [hprogram, Program.exchanges_last] at hexchanges
        -- A step that only asks for the host makes no call.
        have hcalls : taken.step.enquiry ≠ .resolve := by
          intro henquiry
          rw [henquiry] at hserves
          cases hserves
        exact .of_served hrule (by simp [hexchanges]) (by simp [hexchanges])
          (fun henquiry => absurd henquiry hcalls) (by simpa [hexchanges] using hserves) hserved

theorem walk_steps (broker : Broker) (steps : List Step) :
    (broker.walk world operation steps state).map Taken.step = steps := by
  induction steps generalizing state with
  | nil => rfl
  | cons step steps ih => exact congrArg (step :: ·) (ih _)

/-- Each step is made in some state. -/
theorem mem_walk {broker : Broker} {steps : List Step} {taken : Taken}
    (h : taken ∈ broker.walk world operation steps state) :
    ∃ present,
      taken.exchanges = (taken.step.program broker).exchanges world operation present ∧
        taken.result = ((taken.step.program broker).run world operation present).1 := by
  induction steps generalizing state with
  | nil => cases h
  | cons step steps ih =>
      rcases List.mem_cons.1 h with rfl | hlater
      · exact ⟨state, rfl, rfl⟩
      · exact ih _ hlater

end

/-- Every step of a sequence is settled by what the directory answers: it calls at most once, and
only at the one host that the directory knows of the node, where it does call if there is a way to
do so. What it comes to depends neither on the steps before it nor on the state that they leave: the
same step makes the same calls in any other sequence, and comes to the same if they end in the same
way. -/
theorem routing_never_guessed {σ : Type} (broker : Broker) (world : World σ) (operation : String)
    (steps : List Step) (state : σ) :
    (broker.walk world operation steps state).map Taken.step = steps ∧
      ∀ taken ∈ broker.walk world operation steps state, taken.Settled broker ∧
        ∀ (τ : Type) (elsewhere : World τ) (others : List Step) (start : τ),
          ∀ twin ∈ broker.walk elsewhere operation others start, twin.step = taken.step →
            twin.exchanges.map Exchange.call = taken.exchanges.map Exchange.call ∧
              (twin.exchanges = taken.exchanges → twin.result = taken.result) := by
  refine ⟨walk_steps world operation state broker steps, fun taken htaken => ?_⟩
  obtain ⟨present, hexchanges, hresult⟩ := mem_walk world operation state htaken
  refine ⟨Step.settled world operation present rfl hexchanges hresult, ?_⟩
  intro τ elsewhere others start twin htwin hstep
  obtain ⟨there, hexchanges', hresult'⟩ := mem_walk elsewhere operation start htwin
  rw [hexchanges, hexchanges', hresult, hresult', hstep]
  exact ⟨Step.calls_eq elsewhere operation there world present, Program.run_of_exchanges⟩

end Broker

namespace Sample

/-- A directory that knows one address of the first node and two of any other. -/
def directory : Directory where
  targets id := .ok (if id = node.id then ["10.0.0.5:9999"] else ["10.0.0.5", "10.0.0.6"])
  node := broker.directory.node

/-- Makes the first node known, connects to it, and connects to the second. -/
def steps : List Broker.Step :=
  [⟨node.id, .register, directory⟩, ⟨node.id, .connect .eva, directory⟩,
    ⟨otherNode.id, .connect .eva, directory⟩]

end Sample

open Sample in
/-- The node with one address is made known and dialled without its port, under its own name, and
the node with two is refused with their count. -/
theorem routing_refused_for_two :
    ∃ first second third endpoint,
      broker.walk Script.world "walk" steps (script bare []) = [first, second, third] ∧
        first.exchanges.map Exchange.call = [.register "10.0.0.5"] ∧
        broker.endpoint? "10.0.0.5" .eva = some endpoint ∧
        second.exchanges.map Exchange.call =
          [.dial node.id ⟨.eva, endpoint, some ⟨tls.credentials, .host node.id⟩⟩] ∧
        third.exchanges = [] ∧ ∃ context cause, third.result = .error (.connection context cause) ∧
          cause.message = "2 registered gRPC targets, expected exactly one" := by
  have hhost : targetHost "10.0.0.5:9999" = "10.0.0.5" := by decide +kernel
  obtain ⟨endpoint, hendpoint⟩ : ∃ endpoint, broker.endpoint? "10.0.0.5" .eva = some endpoint :=
    Option.isSome_iff_exists.1 (by decide +kernel)
  refine ⟨_, _, _, endpoint, rfl, ?_⟩
  have hall := (Broker.routing_never_guessed broker Script.world "walk" steps
    (script bare [])).2
  have hfirst := (hall _ List.mem_cons_self).1
  have hsecond := (hall _ (List.mem_cons_of_mem _ List.mem_cons_self)).1
  have hthird :=
    (hall _ (List.mem_cons_of_mem _ (List.mem_cons_of_mem _ List.mem_cons_self))).1
  obtain ⟨context, cause, hresult, -, hmessage⟩ := hthird.several _ rfl (by decide)
  refine ⟨?_, hendpoint, ?_, rfl, context, cause, hresult, hmessage⟩
  · exact hfirst.served _ _ rfl (by rw [hhost]; exact .register)
  · exact hsecond.served _ _ rfl (by rw [hhost]; exact .dial hendpoint (.pinned rfl rfl node_name))

end EdgeFleet
