import EdgeFleet.Files.Path
import EdgeFleet.Orchestration.Controller

/-!
# Tasks

What one run of the program is for, and the settings that hold for this run alone.
-/

namespace EdgeFleet.CommandLine

open Files

/-- What is done with the certificate authority. -/
inductive AuthorityTask where
  /-- Makes what is missing of the authority and shows its certificate. -/
  | open
  /-- Answers the request in a file. -/
  | sign (request : Path)
  /-- Gives credentials to a server, in a directory. -/
  | issueServer (node : String) (directory : Path)
  deriving Repr, DecidableEq

/-- What is done with a workload. -/
inductive WorkloadTask where
  | deploy
  | redeploy
  | command (command : Command)
  | status
  | undeploy
  deriving Repr, DecidableEq

/-- What is done on a node. -/
inductive NodeTask where
  | workload (task : WorkloadTask) (id : String)
  | setPolicy (workload policy : String)
  | deletePolicy (workload : String)
  | changeDns (change : DnsChange) (config : String)
  | interfaces
  | setInterfacePolicy (interface policy : String)
  | deleteInterfacePolicy (interface : String)
  deriving Repr, DecidableEq

/-- What a run is for. -/
inductive Task where
  | authority (task : AuthorityTask)
  /-- Something on a node, with an inventory in a file. -/
  | node (inventory : Path) (node : String) (task : NodeTask)
  deriving Repr, DecidableEq

/-- Settings that hold for one run. -/
structure Overrides where
  /-- The file with the settings that are put aside. -/
  config : Option Path
  mode : Option Mode
  authority : Option String
  elaPort : Option UInt16
  evaPort : Option UInt16
  namespaceName : Option String
  requestTimeout : Option Nat
  insecure : Bool
  deriving Repr, DecidableEq

/-- The settings of a run. Plain connections are allowed if either side allows them. -/
def Overrides.apply (overrides : Overrides) (settings : Settings) : Settings :=
  { settings with
    mode := overrides.mode.getD settings.mode
    authority := overrides.authority.getD settings.authority
    elaPort := overrides.elaPort <|> settings.elaPort
    evaPort := overrides.evaPort <|> settings.evaPort
    namespaceName := overrides.namespaceName.getD settings.namespaceName
    requestTimeout := overrides.requestTimeout.getD settings.requestTimeout
    insecure := settings.insecure || overrides.insecure }

/-- What the program is told to do. -/
structure Invocation where
  overrides : Overrides
  task : Task
  deriving Repr, DecidableEq

end EdgeFleet.CommandLine
