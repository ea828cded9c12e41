import EdgeFleet.Cluster.Store
import EdgeFleet.Orchestration.Controller

/-!
# Scripted worlds

A world in which a node answers by a script and a cluster keeps its objects, unless the script
says that a request to it fails. Replies are used up one per call, and every call is noted down.
-/

namespace EdgeFleet

/-- What a node does with a request. -/
inductive NodeReply where
  /-- Answers with a message in which nothing is set. -/
  | empty
  | status (number : Int)
  | interfaces (interfaces : List Agent.Interface)
  | interface (interface : Agent.Interface)
  | refuse (status : RpcStatus)
  | hang

namespace NodeReply

/-- The number of the status in an answer. -/
def statusNumber : NodeReply → Int
  | .status number => number
  | _ => 0

/-- The interfaces in an answer. -/
def interfaceList : NodeReply → List Agent.Interface
  | .interfaces all => all
  | _ => []

/-- The interface in an answer. -/
def oneInterface : NodeReply → Agent.Interface
  | .interface one => one
  | _ => default

/-- What a reply is to a request. -/
def answer (reply : NodeReply) : (request : Agent.Request) → request.Answer
  | .status _ _ => reply.statusNumber
  | .interfaces => reply.interfaceList
  | .interface _ => reply.oneInterface
  | .deploy _ _ | .redeploy _ | .command _ _ _ | .undeploy _ _ | .setPolicy _
  | .setInterfacePolicy _ | .setRecord _ _ | .deleteRecord _ _ | .setForwarders _
  | .deleteForwarders _ | .updateInterface _ | .updateInterfaces _ => ()

/-- A status as the caller sees it: one that says that all went well comes without the message that
should be there. -/
def seen (status : RpcStatus) : RpcStatus :=
  if status.code = .ok then ⟨.internal, "Missing response message."⟩ else status

/-- How a call ends that a node replies to. -/
def outcome (reply : NodeReply) (nodeId context : String) (request : Agent.Request) :
    Outcome (.agent nodeId context request) :=
  match reply with
  | .refuse refusal => .failed (seen refusal)
  | .hang => .hung
  | reply => .answered (reply.answer request)

end NodeReply

/-- What becomes of a request to the cluster. -/
inductive ClusterReply where
  | perform
  /-- Counts as many machines as said, whatever the node. -/
  | count (machines : Nat)
  | fail (error : Error)
  | hang

/-- The certificate that a node shows. -/
structure ServerIdentity where
  /-- The name that the certificate was issued for. -/
  name : String
  /-- The certificate of the authority that issued it. -/
  authority : String
  deriving Repr, DecidableEq

/-- Whether a node with this certificate is the server that a route expects. -/
def ServerIdentity.proves (identity : ServerIdentity) (route : Route) : Bool :=
  match route.tls with
  | none => true
  | some connector =>
    connector.credentials.authorities.contains identity.authority &&
      connector.server.isProvedBy identity.name

/-- The state of a scripted world. -/
structure Script where
  /-- Whether nodes refuse new connections. -/
  refuse : Bool
  identity : Option ServerIdentity
  nodeReplies : List NodeReply
  clusterReplies : List ClusterReply
  store : Cluster.Store
  /-- The calls made so far, last one first. -/
  calls : List Call

namespace Script

/-- The calls made so far, in order. -/
def log (script : Script) : List Call :=
  script.calls.reverse

/-- Whether a connection can be made. -/
def accepts (script : Script) (route : Route) : Bool :=
  !script.refuse && (script.identity.map (·.proves route)).getD true

/-- How a request to the cluster ends by a reply. -/
def clusterOutcome (reply : ClusterReply) (store : Cluster.Store) (request : Cluster.Request) :
    Outcome (.cluster request) × Cluster.Store :=
  match reply with
  | .hang => (.hung, store)
  | .fail error => (.failed error, store)
  | reply =>
    let present :=
      match reply with
      | .count machines => { store with machines := fun _ => machines }
      | _ => store
    match present.perform request with
    | (.ok answer, after) => (.answered answer, { after with machines := store.machines })
    | (.error error, _) => (.failed error, store)

/-- The next reply of a list, and what is left; `usual` once the list is used up. -/
def next {α : Type} (usual : α) : List α → α × List α
  | [] => (usual, [])
  | reply :: rest => (reply, rest)

/-- Answers a call by the script. -/
def answer (script : Script) (call : Call) : Outcome call × Script :=
  let script := { script with calls := call :: script.calls }
  match call with
  | .register _ => (.answered (), script)
  | .dial _ route => (if script.accepts route then .answered () else .failed (), script)
  | .agent nodeId context request =>
    let (reply, rest) := next .empty script.nodeReplies
    (reply.outcome nodeId context request, { script with nodeReplies := rest })
  | .cluster request =>
    let (reply, rest) := next .perform script.clusterReplies
    let (outcome, store) := clusterOutcome reply script.store request
    (outcome, { script with clusterReplies := rest, store })

/-- The world that scripts make. -/
def world : World Script :=
  ⟨answer⟩

end Script

end EdgeFleet
