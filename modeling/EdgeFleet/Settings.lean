import EdgeFleet.Agent.Surface
import EdgeFleet.Document
import EdgeFleet.Mode

/-!
# Settings of the controller
-/

namespace EdgeFleet

/-- What a controller can be told about its surroundings. -/
structure Settings where
  mode : Mode
  elaPort : Option UInt16
  evaPort : Option UInt16
  /-- The directory of the certificate authority. -/
  authority : String
  /-- The namespace of cluster objects. -/
  namespaceName : String
  /-- When the cluster fetches the images of workloads. -/
  pullPolicy : String
  /-- How long a request may take, in seconds. -/
  requestTimeout : Nat
  /-- How long connecting to a node may take, in seconds. -/
  dialTimeout : Nat
  /-- Whether nodes are dialled without encryption. -/
  insecure : Bool
  deriving Repr, DecidableEq

namespace Settings

/-- What holds unless a setting says otherwise. -/
def standard : Settings where
  mode := .native
  elaPort := none
  evaPort := none
  authority := "/etc/edgectl/ca"
  namespaceName := "default"
  pullPolicy := "Never"
  requestTimeout := 30
  dialTimeout := 2
  insecure := false

/-- The port of a surface. -/
def port (settings : Settings) : Agent.Surface → UInt16
  | .eva => settings.evaPort.getD Agent.Surface.eva.defaultPort
  | .ela => settings.elaPort.getD Agent.Surface.ela.defaultPort

/-- The names of the settings, in declared order. -/
def names : List String := [
  "orchestration_mode", "ela_port", "eva_port", "ca_dir", "namespace", "image_pull_policy",
  "request_timeout_secs", "dial_timeout_secs", "insecure"]

/-- Writes all settings; a port that is not set is null. -/
def toDocument (settings : Settings) : Document :=
  let port (value : Option UInt16) : Document :=
    match value with
    | none => .null
    | some value => .int value.toNat
  .ofFields [
    ("orchestration_mode", some (.text settings.mode.name)),
    ("ela_port", some (port settings.elaPort)),
    ("eva_port", some (port settings.evaPort)),
    ("ca_dir", some (.text settings.authority)),
    ("namespace", some (.text settings.namespaceName)),
    ("image_pull_policy", some (.text settings.pullPolicy)),
    ("request_timeout_secs", some (.int settings.requestTimeout)),
    ("dial_timeout_secs", some (.int settings.dialTimeout)),
    ("insecure", some (.bool settings.insecure))]

end Settings

end EdgeFleet
