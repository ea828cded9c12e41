import EdgeFleet.Agent.Request
import EdgeFleet.Broker
import EdgeFleet.Cluster.Deployment
import EdgeFleet.Cluster.NetworkPolicy

/-!
# Programs of calls

An operation of the controller is a tree of calls to the outside: each call is made with all that
it depends on, and what is done next depends on how it ended. A program may go on after a call that
failed; `Program.make` does not, and reports the failure. A call that never returns is another
matter: it runs into the deadline of the operation. `Program.run` carries a program out against a
world that answers calls.
-/

namespace EdgeFleet

namespace Cluster

/-- A request to the cluster. -/
inductive Request where
  /-- How many machines carry the ID of an edge node. -/
  | countNodes (nodeId : String)
  | createDeployment (deployment : Deployment)
  | applyDeployment (deployment : Deployment)
  | getDeployment (name : String)
  | scaleDeployment (name : String) (replicas : Int)
  | deleteDeployment (name : String)
  | applyNetworkPolicy (policy : NetworkPolicy)
  | deleteNetworkPolicy (name : String)
  deriving DecidableEq

/-- What the cluster answers a request with; a deletion tells whether there was anything. -/
abbrev Request.Answer : Request → Type
  | .countNodes _ => Nat
  | .getDeployment _ => Option Deployment
  | .deleteDeployment _ | .deleteNetworkPolicy _ => Bool
  | _ => Unit

end Cluster

/-- A call to the outside. -/
inductive Call where
  /-- Makes the host of a node known for later connections. -/
  | register (host : String)
  /-- Connects to a surface of a node. -/
  | dial (nodeId : String) (route : Route)
  /-- Sends a request over the connection that was made last; `context` says what it is for. -/
  | agent (nodeId context : String) (request : Agent.Request)
  | cluster (request : Cluster.Request)
  deriving DecidableEq

namespace Call

/-- What a call that succeeds is answered with. -/
abbrev Answer : Call → Type
  | .register _ | .dial _ _ => Unit
  | .agent _ _ request => request.Answer
  | .cluster request => request.Answer

/-- What a call that fails is answered with. -/
def Failure : Call → Type
  | .register _ => Empty
  | .dial _ _ => Unit
  | .agent _ _ _ => RpcStatus
  | .cluster _ => Error

/-- The error that a failure is reported as. -/
def error : (call : Call) → call.Failure → Error
  | .register _, failure => nomatch (failure : Empty)
  | .dial nodeId route, _ => .connection (Broker.connecting nodeId route.surface) .transport
  | .agent _ context _, (status : RpcStatus) => .ofStatus context status
  | .cluster _, (error : Error) => error

end Call

/-- How a call ends. -/
inductive Outcome (call : Call) where
  | answered (answer : call.Answer)
  | failed (failure : call.Failure)
  /-- The call does not return before the deadline. -/
  | hung

/-- A tree of calls that ends in a result. What comes after a call depends on its answer, or on how
it failed. -/
inductive Program (α : Type) where
  | done (result : Except Error α)
  | call (call : Call) (next : Except call.Failure call.Answer → Program α)

namespace Program

variable {α β : Type}

/-- Goes on with a second program after the first has succeeded. -/
def bind : Program α → (α → Program β) → Program β
  | .done (.ok value), next => next value
  | .done (.error error), _ => .done (.error error)
  | .call made rest, next => .call made fun result => (rest result).bind next

instance : Monad Program where
  pure value := .done (.ok value)
  bind := bind

/-- Goes on with the answer to a call. Where the call failed, ends in its error. -/
def onAnswer (made : Call) (next : made.Answer → Program α) :
    Except made.Failure made.Answer → Program α
  | .ok answer => next answer
  | .error failure => .done (.error (made.error failure))

/-- Makes a call and goes on with its answer. If the call fails, the program ends in its error. -/
def proceed (made : Call) (next : made.Answer → Program α) : Program α :=
  .call made (onAnswer made next)

/-- Makes one call. -/
def make (call : Call) : Program call.Answer :=
  proceed call fun answer => .done (.ok answer)

/-- Makes a request to the cluster. -/
def ask (request : Cluster.Request) : Program request.Answer :=
  make (.cluster request)

/-- Ends in the result of a calculation, if that failed, and goes on otherwise. -/
def lift (result : Except Error α) : Program α :=
  .done result

instance : MonadLift (Except Error) Program where
  monadLift := lift

/-- Ends in an error. -/
def fail (error : Error) : Program α :=
  .done (.error error)

end Program

/-- What answers calls: a state and, for each call, how it ends and the state after it. -/
structure World (σ : Type) where
  answer : σ → (call : Call) → Outcome call × σ

/-- The world in which nothing can be reached. -/
def World.unreachable : World Unit where
  answer _ call :=
    match call with
    | .register _ => (.answered (), ())
    | .dial _ _ => (.failed (), ())
    | .agent _ _ _ => (.failed ⟨.unavailable, "no connection"⟩, ())
    | .cluster _ => (.failed (.cluster "no connection" .service), ())

/-- Carries a program out. A call that hangs runs into the deadline of the operation. -/
def Program.run {σ α : Type} (world : World σ) (operation : String) :
    Program α → σ → Except Error α × σ
  | .done result, state => (result, state)
  | .call made next, state =>
    match world.answer state made with
    | (.answered answer, state) => (next (.ok answer)).run world operation state
    | (.failed failure, state) => (next (.error failure)).run world operation state
    | (.hung, state) => (.error (.deadlineExceeded (.operation operation)), state)

end EdgeFleet
