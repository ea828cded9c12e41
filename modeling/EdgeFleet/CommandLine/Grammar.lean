import EdgeFleet.CommandLine.Flag
import EdgeFleet.CommandLine.Task

/-!
# Commands

The commands form a tree: groups of commands, and at the leaves what is done, with the flags that it
takes. All flags of a leaf are required.
-/

namespace EdgeFleet.CommandLine

/-- A command: a leaf, which makes a task of the values of its flags, or a group of commands. -/
inductive Grammar where
  | leaf (flags : List Flag) (task : (Flag → String) → Task)
  | group (children : List (String × Grammar))

namespace Grammar

/-- The command of a name in a group. -/
def child? (name : String) : Grammar → Option Grammar
  | .leaf _ _ => none
  | .group children => children.lookup name

/-- Whether there are commands below. -/
def isGroup : Grammar → Bool
  | .leaf _ _ => false
  | .group _ => true

/-- The flags of a command besides those that all take. -/
def own : Grammar → List Flag
  | .leaf flags _ => flags
  | .group _ => []

/-- The flags that a command takes. -/
def flags (grammar : Grammar) : List Flag :=
  Flag.shared ++ grammar.own

/-- The word that asks about commands. -/
def helpWord : String := "help"

/-- Whether there is something to be told about the command that a list of names leads to. -/
def tellsAbout : Grammar → List String → Bool
  | _, [] => true
  | grammar, name :: rest =>
    if grammar.isGroup && name == helpWord then rest.isEmpty
    else
      match grammar.child? name with
      | some below => below.tellsAbout rest
      | none => false

/-- A task on a node, with further flags. -/
def onNode (flags : List Flag) (task : (Flag → String) → NodeTask) : Grammar :=
  .leaf ([.inventory, .node] ++ flags) fun value =>
    .node ⟨value .inventory⟩ (value .node) (task value)

/-- A task with a workload on a node. -/
def onWorkload (task : WorkloadTask) : Grammar :=
  onNode [.workload] fun value => .workload task (value .workload)

/-- A change of the names on a node. -/
def onNames (change : DnsChange) : Grammar :=
  onNode [.dnsConfig] fun value => .changeDns change (value .dnsConfig)

/-- The commands about the certificate authority. -/
def authority : Grammar := .group [
  ("init", .leaf [] fun _ => .authority .open),
  ("sign", .leaf [.request] fun value => .authority (.sign ⟨value .request⟩)),
  ("server-cert", .leaf [.serverNode, .output] fun value =>
    .authority (.issueServer (value .serverNode) ⟨value .output⟩))]

/-- The commands about workloads. -/
def workloads : Grammar := .group [
  ("deploy", onWorkload .deploy),
  ("redeploy", onWorkload .redeploy),
  ("start", onWorkload (.command .start)),
  ("stop", onWorkload (.command .stop)),
  ("restart", onWorkload (.command .restart)),
  ("status", onWorkload .status),
  ("undeploy", onWorkload .undeploy)]

/-- The commands about the policies of workloads. -/
def policies : Grammar := .group [
  ("set", onNode [.workload, .policy] fun value => .setPolicy (value .workload) (value .policy)),
  ("delete", onNode [.workload] fun value => .deletePolicy (value .workload))]

/-- The commands about names. -/
def names : Grammar := .group [
  ("apply", onNames .apply),
  ("remove", onNames .remove)]

/-- The commands about network interfaces. -/
def interfaces : Grammar := .group [
  ("list", onNode [] fun _ => .interfaces),
  ("set-policy", onNode [.interface, .policy] fun value =>
    .setInterfacePolicy (value .interface) (value .policy)),
  ("delete-policy", onNode [.interface] fun value => .deleteInterfacePolicy (value .interface))]

/-- All commands of the program. -/
def program : Grammar := .group [
  ("ca", authority),
  ("app", workloads),
  ("policy", policies),
  ("dns", names),
  ("interface", interfaces)]

end Grammar

end EdgeFleet.CommandLine
