import EdgeFleet.CommandLine.Task
import EdgeFleet.InventoryFile
import EdgeFleet.Pki.Store
import EdgeFleet.SettingsFile

/-!
# Carrying out tasks

`Tools.perform` carries out what the program is told to do and gives the text that is shown. The
settings are read first, then the inventory, and what a task speaks of is looked up in it before the
authority is opened and a node is called. `Failure.report` is what is shown when something fails.
-/

namespace EdgeFleet.CommandLine

open Files

/-- Why a task failed. -/
inductive Failure where
  | settings (path : Path) (cause : Error)
  | inventory (path : Path) (cause : Error)
  /-- The authority in a directory could not be opened. -/
  | opening (directory : Path) (cause : Pki.Fault)
  | request (path : Path) (cause : Files.Fault)
  | authority (cause : Pki.Fault)
  /-- There is no way to a cluster. -/
  | noCluster
  | operation (cause : Error)
  deriving Repr, DecidableEq

namespace Failure

/-- The words for a failure. -/
def message : Failure → String
  | .settings path _ => "failed to load config " ++ path.text
  | .inventory path _ => "failed to load inventory " ++ path.text
  | .opening directory _ => "failed to open CA in " ++ directory.text
  | .request path _ => "failed to read CSR " ++ path.text
  | .authority cause => cause.message
  | .noCluster => "failed to create Kubernetes client"
  | .operation cause => cause.message

/-- The words for a failure of the authority and for what caused it. -/
def chain (fault : Pki.Fault) : List String :=
  match fault with
  | .file cause => [fault.message, cause.message]
  | _ => [fault.message]

/-- The words for what caused a failure, the nearest cause first. -/
def causes : Failure → List String
  | .settings _ cause | .inventory _ cause => cause.message :: cause.cause?.toList
  | .opening _ cause => chain cause
  | .request _ cause => [cause.message]
  | .authority cause => (chain cause).tail
  | .noCluster => []
  | .operation cause => cause.cause?.toList

/-- A text whose lines after the first are set back by some blanks. -/
def setBack (blanks : Nat) (text : String) : String :=
  text.replace "\n" ("\n" ++ String.ofList (List.replicate blanks ' '))

/-- The lines about causes. Several causes are numbered. -/
def causeLines (causes : List String) : List String :=
  match causes with
  | [] => []
  | [cause] => ["", "Caused by:", "    " ++ setBack 4 cause]
  | causes =>
    "" :: "Caused by:" :: causes.zipIdx.map fun (cause, index) =>
      let number := toString index
      String.ofList (List.replicate (5 - number.length) ' ') ++ number ++ ": " ++ setBack 7 cause

/-- What is shown of a failure. -/
def report (failure : Failure) : String :=
  "\n".intercalate (("Error: " ++ failure.message) :: causeLines failure.causes) ++ "\n"

end Failure

/-- What tasks are carried out with. -/
structure Tools (m : Type → Type) where
  host : Host m
  suite : Crypto.Suite
  library : Tls.Library
  /-- Carries out an operation on nodes. -/
  operate : {α : Type} → Operation α → m (Except Error α)

namespace WorkloadTask

/-- The operation of a task, with the text that is shown when it succeeds. -/
def operation (task : WorkloadTask) (controller : Controller) (node : String)
    (workload : Workload) : Operation String :=
  let shown (status : Status) : String := status.name ++ "\n"
  let silent (_ : Unit) : String := ""
  match task with
  | .deploy => (controller.deploy node workload).map shown
  | .redeploy => (controller.redeploy node workload).map silent
  | .command given => (controller.command node workload.ref given).map shown
  | .status => (controller.status node workload.ref).map shown
  | .undeploy => (controller.undeploy node workload.ref).map silent

end WorkloadTask

namespace NodeTask

/-- The line for an interface. -/
def interfaceLine (interface : Agent.Interface) : String :=
  "\t".intercalate
    [interface.id, interface.mac, interface.directionName, interface.description] ++ "\n"

/-- Looks up what a task speaks of. The operation is then left to a controller. -/
def prepare (task : NodeTask) (inventory : Inventory) (node : String) :
    Except Error (Controller → Operation String) := do
  let silent (_ : Unit) : String := ""
  match task with
  | .workload task id =>
    let workload ← inventory.workload id
    return fun controller => task.operation controller node workload
  | .setPolicy id policy =>
    let workload ← inventory.workload id
    let policy ← inventory.policy policy
    return fun controller => (controller.setPolicy node workload.ref policy).map silent
  | .deletePolicy id =>
    let workload ← inventory.workload id
    return fun controller => (controller.deletePolicy node workload.ref).map silent
  | .changeDns change id =>
    let config ← inventory.dnsConfig id
    let aliases := inventory.dnsAliasesOf config.id
    return fun controller => (controller.changeDns change node config aliases).map silent
  | .interfaces =>
    return fun controller => (controller.interfaces node).map fun interfaces =>
      String.join (interfaces.map interfaceLine)
  | .setInterfacePolicy interface policy =>
    let policy ← inventory.nativePolicy policy
    return fun controller => (controller.setInterfacePolicy node interface policy).map silent
  | .deleteInterfacePolicy interface =>
    return fun controller => (controller.deleteInterfacePolicy node interface).map silent

end NodeTask

namespace Tools

variable {m : Type → Type} [Monad m] (tools : Tools m)

/-- A step that may fail, as a step of a task. -/
def attempt {ε α : Type} (failure : ε → Failure) (action : m (Except ε α)) :
    ExceptT Failure m α :=
  ExceptT.mk do return (← action).mapError failure

/-- Reads a file. -/
def load {α : Type} (path : Path) (parse : String → Except Error α) : m (Except Error α) := do
  match ← tools.host.readText path with
  | .ok text => return parse text
  | .error fault => return .error (.file fault)

/-- The settings of a run. -/
def settings (overrides : Overrides) : ExceptT Failure m Settings := do
  match overrides.config with
  | none => return overrides.apply .standard
  | some path =>
    let settings ← attempt (.settings path) (tools.load path Settings.parse)
    return overrides.apply settings

/-- A task with the authority. -/
def performAuthority (settings : Settings) (task : AuthorityTask) : ExceptT Failure m String := do
  let directory : Path := ⟨settings.authority⟩
  let authority ← attempt (.opening directory)
    (Pki.Authority.openIn tools.host tools.suite directory).run
  match task with
  | .open => return authority.certificate
  | .sign path =>
    let text ← attempt (.request path) (tools.host.readText path)
    let request ← attempt .authority (pure (Pki.Pem.read text))
    attempt .authority (authority.enroll tools.host tools.suite request).run
  | .issueServer node directory =>
    let credentials ← attempt .authority
      (Pki.ServerCredentials.issue tools.host tools.suite authority node).run
    attempt .authority (credentials.writeTo tools.host directory).run
    return ""

/-- How connections to nodes are encrypted: with new credentials, unless they are to be plain. -/
def nodeTls (settings : Settings) : ExceptT Failure m (Option Tls.Config) := do
  if settings.insecure then return none
  let shared := Pki.SharedAuthority.ofDirectory ⟨settings.authority⟩
  let authority ← attempt .authority do
    return (← shared.obtain tools.host tools.suite).1
  let credentials ← attempt .authority
    (Pki.ClientCredentials.issue tools.host tools.suite authority).run
  return some credentials.tls

/-- A controller over an inventory. -/
def controller (settings : Settings) (inventory : Inventory) : ExceptT Failure m Controller := do
  let tls ← tools.nodeTls settings
  if settings.mode.usesCluster then throw .noCluster
  let broker := Broker.ofSettings settings inventory.directory tools.library tls
  attempt .operation (pure (Controller.ofSettings settings broker false))

/-- A task on a node. -/
def performOnNode (settings : Settings) (path : Path) (node : String) (task : NodeTask) :
    ExceptT Failure m String := do
  let inventory ← attempt (.inventory path) (tools.load path Inventory.parse)
  let operation ← attempt .operation (pure (task.prepare inventory node))
  let controller ← tools.controller settings inventory
  attempt .operation (tools.operate (operation controller))

/-- Does what the program is told to do, and gives what is shown. -/
def perform (invocation : Invocation) : ExceptT Failure m String := do
  let settings ← tools.settings invocation.overrides
  match invocation.task with
  | .authority task => tools.performAuthority settings task
  | .node inventory node task => tools.performOnNode settings inventory node task

end Tools

end EdgeFleet.CommandLine
