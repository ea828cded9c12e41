import EdgeFleet.Json.Basic

/-!
# Reading cluster objects

Cluster objects are JSON objects in which a null member and an absent one are the same, and
members that are not known do not count.
-/

namespace EdgeFleet.Cluster

/-- The labels of an object. -/
abbrev Labels := List (String × String)

namespace Object

variable {α : Type}

/-- An object, to read members from. -/
def open? (value : Json) : Option Json :=
  match value with
  | .object _ => some value
  | _ => none

/-- A member that need not be there. -/
def optional (value : Json) (key : String) (read : Json → Option α) : Option (Option α) :=
  match value.present? key with
  | none => some none
  | some member => (read member).map some

/-- A member that has a value even when it is not there. -/
def withDefault (value : Json) (key : String) (default : α) (read : Json → Option α) : Option α :=
  (optional value key read).map (·.getD default)

/-- A member that, if it is there, holds a given text. -/
def expect (value : Json) (key text : String) : Option Unit :=
  match value.present? key with
  | none => some ()
  | some member => if member.text? == some text then some () else none

/-- A list of readable items. -/
def listOf? (read : Json → Option α) (value : Json) : Option (List α) :=
  value.items?.bind (·.mapM read)

/-- Labels with one entry for each key: a later one replaces an earlier one. -/
def merged (labels : Labels) : Labels :=
  labels.foldl (fun kept label => kept.filter (·.1 != label.1) ++ [label]) []

/-- A map from texts to texts. -/
def labels? : Json → Option Labels
  | .object members => do
    let labels ← members.mapM fun member => member.2.text?.map (member.1, ·)
    return merged labels
  | _ => none

/-- A map from texts to texts. -/
def ofLabels (labels : Labels) : Json :=
  .object (labels.map fun (key, value) => (key, .string value))

/-- A number of 32 bits with a sign. -/
def int32? (value : Json) : Option Int :=
  value.int?.filter fun number => -0x80000000 ≤ number && number < 0x80000000

end Object

/-- What every object of the cluster says of itself. -/
structure Metadata where
  name : Option String
  namespaceName : Option String
  labels : Option Labels
  deriving Repr, DecidableEq, Inhabited

namespace Metadata

/-- Reads metadata. -/
def ofJson? (value : Json) : Option Metadata := do
  let value ← Object.open? value
  return {
    name := ← Object.optional value "name" Json.text?
    namespaceName := ← Object.optional value "namespace" Json.text?
    labels := ← Object.optional value "labels" Object.labels? }

/-- Writes metadata. -/
def toJson (metadata : Metadata) : Json :=
  .compact [
    ("name", metadata.name.map .string),
    ("namespace", metadata.namespaceName.map .string),
    ("labels", metadata.labels.map Object.ofLabels)]

end Metadata

/-- The labels that an object must carry to be selected; without any, all objects are. -/
structure LabelSelector where
  required : Option Labels
  deriving Repr, DecidableEq, Inhabited

namespace LabelSelector

/-- Reads a selector. -/
def ofJson? (value : Json) : Option LabelSelector := do
  let value ← Object.open? value
  return ⟨← Object.optional value "matchLabels" Object.labels?⟩

/-- Writes a selector. -/
def toJson (selector : LabelSelector) : Json :=
  .compact [("matchLabels", selector.required.map Object.ofLabels)]

/-- Whether an object with the given labels is selected. -/
def selects (selector : LabelSelector) (labels : Labels) : Bool :=
  (selector.required.getD []).all fun label => labels.contains label

end LabelSelector

end EdgeFleet.Cluster
