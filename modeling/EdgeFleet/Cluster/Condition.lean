import EdgeFleet.Cluster.Object
import EdgeFleet.Lifecycle
import EdgeFleet.Time.Instant

/-!
# Conditions of a deployment

The cluster reports the progress of a deployment as a list of conditions. `Status.ofConditions`
says what they mean for a workload: the condition that holds and was updated last decides.
-/

namespace EdgeFleet.Cluster

/-- One observation about a deployment. It holds if its status is `True`. -/
structure Condition where
  kind : String
  status : String
  updated : Option Time.Instant
  changed : Option Time.Instant
  reason : Option String
  message : Option String
  deriving Repr, DecidableEq, Inhabited

namespace Condition

/-- Whether a condition holds. -/
def holds (condition : Condition) : Bool :=
  condition.status == "True"

/-- Whether a condition was updated after another. One without a time is the oldest. -/
def isNewer (a b : Condition) : Bool :=
  match a.updated, b.updated with
  | some timeA, some timeB => timeB.isBefore timeA
  | some _, none => true
  | none, _ => false

/-- A point in time. -/
def instant? (value : Json) : Option Time.Instant :=
  value.text?.bind Time.Instant.parse?

/-- Reads a condition. -/
def ofJson? (value : Json) : Option Condition := do
  let value ← Object.open? value
  return {
    kind := ← Object.withDefault value "type" "" Json.text?
    status := ← Object.withDefault value "status" "" Json.text?
    updated := ← Object.optional value "lastUpdateTime" instant?
    changed := ← Object.optional value "lastTransitionTime" instant?
    reason := ← Object.optional value "reason" Json.text?
    message := ← Object.optional value "message" Json.text? }

/-- Writes a condition. -/
def toJson (condition : Condition) : Json :=
  .compact [
    ("lastTransitionTime", condition.changed.map fun time => .string time.render),
    ("lastUpdateTime", condition.updated.map fun time => .string time.render),
    ("message", condition.message.map .string),
    ("reason", condition.reason.map .string),
    ("status", some (.string condition.status)),
    ("type", some (.string condition.kind))]

/-- The first of the newest conditions of a list. -/
def newest? : List Condition → Option Condition
  | [] => none
  | condition :: rest =>
    match newest? rest with
    | none => some condition
    | some other => if other.isNewer condition then some other else some condition

/-- What a condition that holds means for a workload. -/
def meaning (condition : Condition) : Status :=
  match condition.kind with
  | "Available" => .deployed
  | "Progressing" => .deploying
  | "ReplicaFailure" => .error
  | _ => .unknown

end Condition

end EdgeFleet.Cluster

namespace EdgeFleet

/-- The status of a workload by the conditions of its deployment: what the newest of those that
hold means, and stopped if none holds. -/
def Status.ofConditions (conditions : List Cluster.Condition) : Status :=
  match Cluster.Condition.newest? (conditions.filter Cluster.Condition.holds) with
  | none => .stopped
  | some condition => condition.meaning

end EdgeFleet
