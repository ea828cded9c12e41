/-!
# Network interfaces of a node
-/

namespace EdgeFleet.Agent

/-- A network interface. Driver and direction are given by number. -/
structure Interface where
  id : String
  description : String
  driver : Int32
  direction : Int32
  mac : String
  vlan : UInt32
  zones : List String
  fallback : String
  deriving DecidableEq, Inhabited

namespace Interface

/-- The name of a direction of traffic; a number without a meaning is unknown. -/
def directionName (interface : Interface) : String :=
  if interface.direction = 1 then "UPSTREAM"
  else if interface.direction = 2 then "DOWNSTREAM"
  else if interface.direction = 3 then "BOTH"
  else "UNKNOWN"

end Interface

end EdgeFleet.Agent
