import EdgeFleet.Record.Violation

/-!
# Lifecycle of workloads

The states that a workload is reported in, and the commands that change its run state. A command
is allowed in some states only (`Command.allowed`), passes through one state and ends in another.
Nodes number states and commands; `Status.ofWire` and `Status.toWire` lead there and back.
-/

namespace EdgeFleet

/-- The observable state of a workload on a node. -/
inductive Status where
  | unknown
  | deploying
  | deployed
  | starting
  | running
  | stopping
  | stopped
  | error
  deriving Repr, DecidableEq, Inhabited

namespace Status

/-- All states. -/
def all : List Status :=
  [.unknown, .deploying, .deployed, .starting, .running, .stopping, .stopped, .error]

/-- The name that a state is shown by. -/
def name : Status → String
  | .unknown => "unknown"
  | .deploying => "deploying"
  | .deployed => "deployed"
  | .starting => "starting"
  | .running => "running"
  | .stopping => "stopping"
  | .stopped => "stopped"
  | .error => "error"

/-- The state with a given name. -/
def ofName? (name : String) : Option Status :=
  all.find? (·.name == name)

end Status

/-- The states that a node knows. It calls a workload that waits for its first start ready. -/
inductive WireStatus where
  | unknown
  | ready
  | starting
  | running
  | stopping
  | stopped
  | error
  deriving Repr, DecidableEq, Inhabited

namespace WireStatus

/-- All states, in the order of their numbers. -/
def all : List WireStatus :=
  [.unknown, .ready, .starting, .running, .stopping, .stopped, .error]

/-- The name of a state in the protocol. -/
def name : WireStatus → String
  | .unknown => "UNKNOWN"
  | .ready => "READY"
  | .starting => "STARTING"
  | .running => "RUNNING"
  | .stopping => "STOPPING"
  | .stopped => "STOPPED"
  | .error => "ERROR"

/-- The number of a state. -/
def number : WireStatus → Nat
  | .unknown => 0
  | .ready => 1
  | .starting => 2
  | .running => 3
  | .stopping => 4
  | .stopped => 5
  | .error => 6

/-- The state with a given number. -/
def ofNumber? : Int → Option WireStatus
  | 0 => some .unknown
  | 1 => some .ready
  | 2 => some .starting
  | 3 => some .running
  | 4 => some .stopping
  | 5 => some .stopped
  | 6 => some .error
  | _ => none

end WireStatus

namespace Status

/-- The state that a node reports. -/
def ofWire : WireStatus → Status
  | .unknown => .unknown
  | .ready => .deployed
  | .starting => .starting
  | .running => .running
  | .stopping => .stopping
  | .stopped => .stopped
  | .error => .error

/-- The state as a node knows it. A node has no name for a deployment in progress. -/
def toWire : Status → WireStatus
  | .unknown | .deploying => .unknown
  | .deployed => .ready
  | .starting => .starting
  | .running => .running
  | .stopping => .stopping
  | .stopped => .stopped
  | .error => .error

/-- The state for a number that a node sent; a number without a meaning is unknown. -/
def ofNumber (number : Int) : Status :=
  ofWire ((WireStatus.ofNumber? number).getD .unknown)

end Status

/-- A command that changes the run state of a workload. -/
inductive Command where
  | start
  | stop
  | restart
  deriving Repr, DecidableEq, Inhabited

namespace Command

/-- The name that a command is given by. -/
def name : Command → String
  | .start => "start"
  | .stop => "stop"
  | .restart => "restart"

/-- Reads a command by its name. -/
def parse (text : String) : Except Violation Command :=
  match text with
  | "" => .error (.of .commandMissing)
  | "start" => .ok .start
  | "stop" => .ok .stop
  | "restart" => .ok .restart
  | other => .error (.of (.unknownCommand other))

/-- Whether a command may be given in a state: only what rests can be started, and only what runs
can be stopped or restarted. -/
def allowed : Command → Status → Bool
  | .start, .deployed | .start, .stopped => true
  | .stop, .running | .restart, .running => true
  | _, _ => false

/-- The state while a command is carried out. -/
def transient : Command → Status
  | .start | .restart => .starting
  | .stop => .stopping

/-- The state once a command has been carried out. -/
def target : Command → Status
  | .start | .restart => .running
  | .stop => .stopped

/-- The number of a command. -/
def number : Command → Nat
  | .start => 0
  | .stop => 1
  | .restart => 2

end Command

end EdgeFleet
