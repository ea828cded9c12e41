import EdgeFleet.Mode
import EdgeFleet.Text.Number

/-!
# Flags of the command line

A flag is written as two hyphens and a name, and all but one are followed by a value. What is not
said on the command line may stand in a variable of the environment.
-/

namespace EdgeFleet.CommandLine

/-- What can be said with a flag. -/
inductive Flag where
  | config
  | mode
  | authority
  | elaPort
  | evaPort
  | namespaceName
  | timeout
  | insecure
  | request
  | serverNode
  | output
  | inventory
  | node
  | workload
  | policy
  | dnsConfig
  | interface
  deriving Repr, DecidableEq

/-- What values look like. -/
inductive ValueForm where
  | text
  /-- A text that is not empty. -/
  | path
  | port
  | seconds
  | mode
  /-- A word for true or false, for a flag that stands alone. -/
  | truth
  deriving Repr, DecidableEq

namespace ValueForm

/-- The port in a text. A sign in front of it does not count. -/
def port? (text : String) : Option UInt16 :=
  match text.toList with
  | '-' :: digits => ((Text.digits? 10 digits).filter (· = 0)).map .ofNat
  | cs => (Text.natBelow? 0x10000 cs).map .ofNat

/-- The number of seconds in a text. -/
def seconds? (text : String) : Option Nat :=
  Text.natBelow? 0x10000000000000000 text.toList

/-- Whether a text has the form. -/
def admits (form : ValueForm) (text : String) : Bool :=
  match form with
  | .text => true
  | .path => !text.isEmpty
  | .port => (port? text).isSome
  | .seconds => (seconds? text).isSome
  | .mode => (Mode.ofName? text).isSome
  | .truth => text == "true" || text == "false"

end ValueForm

namespace Flag

/-- The flags that every command takes. -/
def shared : List Flag :=
  [.config, .mode, .authority, .elaPort, .evaPort, .namespaceName, .timeout, .insecure]

/-- The flags that single commands take. -/
def single : List Flag :=
  [.request, .serverNode, .output, .inventory, .node, .workload, .policy, .dnsConfig, .interface]

/-- All flags. -/
def all : List Flag := shared ++ single

/-- The name of a flag. -/
def name : Flag → String
  | .config => "config"
  | .mode => "mode"
  | .authority => "ca-dir"
  | .elaPort => "ela-port"
  | .evaPort => "eva-port"
  | .namespaceName => "namespace"
  | .timeout => "timeout-secs"
  | .insecure => "insecure"
  | .request => "csr"
  | .serverNode => "node-id"
  | .output => "out-dir"
  | .inventory => "inventory"
  | .node => "node"
  | .workload => "unit"
  | .policy => "policy"
  | .dnsConfig => "dns-config"
  | .interface => "interface"

/-- The variable that stands in for a flag. -/
def standIn? : Flag → Option String
  | .config => some "EDGECTL_CONFIG"
  | .mode => some "EDGECTL_ORCHESTRATION_MODE"
  | .authority => some "EDGECTL_CA_DIR"
  | .elaPort => some "EDGECTL_ELA_PORT"
  | .evaPort => some "EDGECTL_EVA_PORT"
  | .namespaceName => some "EDGECTL_NAMESPACE"
  | .timeout => some "EDGECTL_REQUEST_TIMEOUT"
  | .insecure => some "EDGECTL_INSECURE"
  | .inventory => some "EDGECTL_INVENTORY"
  | _ => none

/-- What the values of a flag look like. -/
def form : Flag → ValueForm
  | .config | .authority | .request | .output | .inventory => .path
  | .mode => .mode
  | .elaPort | .evaPort => .port
  | .timeout => .seconds
  | .insecure => .truth
  | .namespaceName | .serverNode | .node | .workload | .policy | .dnsConfig | .interface => .text

/-- Whether a flag stands alone. -/
def isSwitch (flag : Flag) : Bool :=
  flag.form = .truth

/-- What is said for a flag when it stands alone. -/
def switchedOn : String := "true"

/-- Whether a value can be given with a flag. -/
def admits (flag : Flag) (value : String) : Bool :=
  flag.form.admits value

end Flag

end EdgeFleet.CommandLine
