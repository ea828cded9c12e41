import EdgeFleet.Text.Quoted
import EdgeFleet.Uri.Url

/-!
# Violations

What can be wrong with an entity, and where. A `Fault` is one broken rule, and a `Violation` is a
fault with the path of the part that it was found in. The wording of all of them is in
`Fault.message` and `Violation.message`.
-/

namespace EdgeFleet

/-- A field of an entity, or one item of a field that holds a list. -/
structure Place where
  field : String
  index : Option Nat
  deriving Repr, DecidableEq

namespace Place

/-- One item of a list. -/
def item (field : String) (index : Nat) : Place :=
  ⟨field, some index⟩

instance : Coe String Place := ⟨fun field => ⟨field, none⟩⟩

/-- The name of a place: the field, with the position of the item in brackets. -/
def name (place : Place) : String :=
  match place.index with
  | none => place.field
  | some index => place.field ++ "[" ++ toString index ++ "]"

end Place

/-- Why a text is not a network. -/
inductive NetworkFault where
  | noLength (text : String)
  | unreadable (text : String)
  deriving Repr, DecidableEq

/-- The words for a network fault. -/
def NetworkFault.message : NetworkFault → String
  | .noLength text => "missing prefix length in " ++ Text.quoted text
  | .unreadable text => "invalid address: " ++ text

/-- A rule that an entity breaks. -/
inductive Fault where
  | notUuid (place : Place)
  | empty (place : Place)
  | outside (place : Place) (low high : Nat)
  | unparsable (place : Place)
  | unspecified (place : Place)
  | noRecordsNorForwarders
  | noFilter
  | noRedirect
  | noDirection
  | reversedPorts
  | filterProtocol
  | action
  | subscriber (index : Nat)
  | url (cause : Uri.UrlError)
  | commandMissing
  | unknownCommand (text : String)
  | clusterProtocol (text : String)
  | network (cause : NetworkFault)
  | exceptSame (except cidr : String)
  | exceptOutside (except cidr : String)
  | exceptNotSmaller (except : String)
  deriving Repr, DecidableEq

/-- The words for a fault. -/
def Fault.message : Fault → String
  | .notUuid place => place.name ++ " not a valid uuid"
  | .empty place => place.name ++ " cannot be empty"
  | .outside place low high => s!"{place.name} must be in [{low}..{high}]"
  | .unparsable place => place.name ++ " could not be parsed"
  | .unspecified place => place.name ++ " cannot be unspecified"
  | .noRecordsNorForwarders => "records and forwarders cannot both be empty"
  | .noFilter => "macs|ip|gtp cannot all be nil"
  | .noRedirect => "mac|ip cannot both be nil"
  | .noDirection => "ingress and egress cannot be empty"
  | .reversedPorts => "begin_port must be <= end_port"
  | .filterProtocol => "protocol must be one of [tcp, udp, icmp, sctp]"
  | .action => "action must be one of [accept, reject, drop]"
  | .subscriber index => s!"imsis[{index}] must be 14 or 15 digits"
  | .url cause => "uri is invalid: " ++ cause.message
  | .commandMissing => "cmd missing"
  | .unknownCommand text =>
    "cmd must be one of [start, stop, restart], got " ++ Text.quoted text
  | .clusterProtocol text => "not supported protocol: " ++ text
  | .network cause => "invalid CIDR: " ++ cause.message
  | .exceptSame except cidr => s!"CIDR({except}) is the same as CIDR({cidr})"
  | .exceptOutside except cidr => s!"CIDR({except}) is not in CIDR({cidr})"
  | .exceptNotSmaller except => s!"CIDR({except}) mask is invalid"

/-- A fault and the path to the part that has it, outermost place first. -/
structure Violation where
  path : List Place
  fault : Fault
  deriving Repr, DecidableEq

namespace Violation

/-- A fault of the entity itself. -/
def of (fault : Fault) : Violation :=
  ⟨[], fault⟩

/-- The words for a violation: the path, with a point after each place, and the fault. -/
def message (violation : Violation) : String :=
  violation.path.foldr (fun place rest => place.name ++ "." ++ rest) violation.fault.message

end Violation

/-- The outcome of checking an entity or a part of one. -/
abbrev Check := Except Violation Unit

namespace Check

/-- Fails with a fault unless a condition holds. -/
def require (condition : Bool) (fault : Fault) : Check :=
  if condition then .ok () else .error (.of fault)

/-- A check of the part at `place`, reported with its path. -/
def inside (place : Place) : Check → Check
  | .ok () => .ok ()
  | .error violation => .error ⟨place :: violation.path, violation.fault⟩

/-- Checks every item of a list in order, each with its position. -/
def each {α : Type} (check : Nat → α → Check) (items : List α) : Check :=
  items.zipIdx.forM fun (item, index) => check index item

/-- Checks a part if it is there. -/
def optional {α : Type} (check : α → Check) : Option α → Check
  | none => .ok ()
  | some part => check part

/-- A text must not be empty. -/
def nonEmpty (place : Place) (text : String) : Check :=
  require (!text.isEmpty) (.empty place)

/-- A number must lie in a range. -/
def range (place : Place) (value low high : Nat) : Check :=
  require (low ≤ value && value ≤ high) (.outside place low high)

end Check

end EdgeFleet
