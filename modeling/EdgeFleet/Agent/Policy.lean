import EdgeFleet.Error
import EdgeFleet.Record.TrafficPolicy

/-!
# Traffic policies as nodes take them

A node takes the whole policy of an application or an interface in one message, under the ID of
what it applies to. `Policy.ofTraffic` makes it of a traffic policy; `Policy.clear` is the message
without rules, which takes a policy away.
-/

namespace EdgeFleet

/-- The number of an action. -/
def TrafficAction.number : TrafficAction → Nat
  | .accept => 0
  | .reject => 1
  | .drop => 2

namespace Agent

/-- The outcome of a rule, with its action by number. -/
structure Target where
  description : String
  action : Nat
  mac : Option String
  ip : Option IpRedirect
  deriving Repr, DecidableEq

/-- A rule. -/
structure Rule where
  description : String
  priority : UInt32
  source : Option Selector
  destination : Option Selector
  target : Option Target
  deriving Repr, DecidableEq

/-- The policy of an application or an interface. -/
structure Policy where
  /-- The ID of what the policy applies to. -/
  id : String
  rules : List Rule
  deriving Repr, DecidableEq

namespace Target

/-- The message for the outcome of a rule. -/
def ofTarget (target : RuleTarget) : Except Violation Target := do
  let action ← TrafficAction.parse target.action
  return ⟨target.description, action.number, target.mac, target.ip⟩

end Target

namespace Rule

/-- The message for a rule. -/
def ofRule (rule : TrafficRule) : Except Violation Rule := do
  let target ← rule.target.mapM Target.ofTarget
  return ⟨rule.description, rule.priority, rule.source, rule.destination, target⟩

end Rule

namespace Policy

/-- The policy without rules. -/
def clear (id : String) : Policy :=
  ⟨id, []⟩

/-- The message for a policy that passes its check. -/
def ofTraffic (id : String) (policy : TrafficPolicy) : Except Error Policy := do
  Error.ofCheck policy.check
  let rules ← Error.ofCheck (policy.rules.mapM Rule.ofRule)
  return ⟨id, rules⟩

/-- The message for a policy, or the one that clears the present one. -/
def ofTraffic? (id : String) : Option TrafficPolicy → Except Error Policy
  | none => .ok (clear id)
  | some policy => ofTraffic id policy

end Policy

end Agent

end EdgeFleet
